import SuiteRunner.Proofs.TextSeams
import SuiteRunner.Proofs.TraceCodec
import SuiteRunner.TestFile.Blocks

/-!
# Escapes written over two lines

The escape of a line feed may be written as a break: a backslash at the end of a line, and two spaces in front of what
follows. The main statement is that a file in which all escapes are broken in this way is read as the same file.
-/

namespace SuiteRunner.Proofs
open TestFile

/-- Every escape of a line feed is broken. -/
def breakEscapes : Text → Text
  | [] => []
  | '\\' :: 'n' :: rest => '\\' :: '\n' :: ' ' :: ' ' :: breakEscapes rest
  | c :: rest => c :: breakEscapes rest

/-- A broken escape: a backslash, a line feed and two spaces. -/
def brokenEscape : Text := ['\\', '\n', ' ', ' ']

lemma breakEscapes_replaces : Replaces breakEscapes lineEscape brokenEscape := by
  refine ⟨rfl, fun t => ?_, fun c t h => ?_⟩
  · simp only [lineEscape, List.cons_append, List.nil_append]
    rw [breakEscapes]
    rfl
  · rw [breakEscapes]
    rintro rest rfl rfl
    exact h ⟨rest, rfl⟩

lemma foldContinuations_brokenEscape : Replaces foldContinuations brokenEscape lineEscape :=
  foldContinuations_replaces

lemma Replaces.append {f : Text → Text} {y : Char} {pattern replacement : Text}
    (hf : Replaces f (y :: pattern) replacement) {a : Text} (ha : y ∉ a) (t : Text) : f (a ++ t) = a ++ f t := by
  induction a with
  | nil => rfl
  | cons c a ih =>
    rw [List.mem_cons, not_or] at ha
    have hnot : ¬ y :: pattern <+: c :: (a ++ t) := fun h => ha.1 (List.cons_prefix_cons.mp h).1
    rw [List.cons_append, hf.passed c _ hnot, ih ha.2, List.cons_append]

lemma not_lineEscape_prefix {c : Char} {rest : Text} (h : ∀ u, c = '\\' → rest = 'n' :: u → False) :
    ¬ lineEscape <+: c :: rest := by
  rintro ⟨u, hu⟩
  obtain ⟨hc, hrest⟩ := List.cons.inj hu
  exact h u hc.symm hrest.symm

lemma breakEscapes_brokenEscape (t : Text) : breakEscapes (brokenEscape ++ t) = brokenEscape ++ breakEscapes t := by
  have hnot : ¬ lineEscape <+: '\\' :: (['\n', ' ', ' '] ++ t) := by simp [lineEscape, List.cons_prefix_cons]
  rw [brokenEscape, List.cons_append, breakEscapes_replaces.passed _ _ hnot, breakEscapes_replaces.append (by decide)]
  rfl

lemma foldContinuations_lineEscape (t : Text) : foldContinuations (lineEscape ++ t) = lineEscape ++ foldContinuations t := by
  have hnot : ¬ brokenEscape <+: '\\' :: (['n'] ++ t) := by simp [brokenEscape, List.cons_prefix_cons]
  rw [lineEscape, List.cons_append, foldContinuations_brokenEscape.passed _ _ hnot,
    foldContinuations_brokenEscape.append (by decide)]
  rfl

/-- Folding undoes the breaks, also where they stand beside continuations and backslashes that were there before. -/
theorem foldContinuations_breakEscapes (t : Text) : foldContinuations (breakEscapes t) = foldContinuations t := by
  induction t using breakEscapes.induct with
  | case1 => rfl
  | case2 rest ih =>
    change foldContinuations (breakEscapes (lineEscape ++ rest)) = foldContinuations (lineEscape ++ rest)
    rw [breakEscapes_replaces.found, foldContinuations_brokenEscape.found, foldContinuations_lineEscape, ih]
  | case3 c rest hne ih =>
    have hescape := not_lineEscape_prefix hne
    by_cases hbroken : brokenEscape <+: c :: rest
    · -- the hypothesis is on the text behind the backslash, of which the blanks are passed
      obtain ⟨u, hu⟩ := hbroken
      obtain ⟨rfl, rfl⟩ := List.cons.inj hu
      have hindent (t : Text) : foldContinuations (['\n', ' ', ' '] ++ t) = ['\n', ' ', ' '] ++ foldContinuations t :=
        foldContinuations_brokenEscape.append (by decide) t
      rw [List.append_eq, breakEscapes_replaces.append (by decide), hindent, hindent] at ih
      change foldContinuations (breakEscapes (brokenEscape ++ u)) = foldContinuations (brokenEscape ++ u)
      rw [breakEscapes_brokenEscape, foldContinuations_brokenEscape.found, foldContinuations_brokenEscape.found,
        List.append_cancel_left ih]
    · have hindent : ['\n', ' ', ' '] <+: breakEscapes rest ↔ ['\n', ' ', ' '] <+: rest :=
        breakEscapes_replaces.prefix_iff (by decide) (by decide)
      have hnot : ¬ brokenEscape <+: c :: breakEscapes rest := by
        rw [brokenEscape, List.cons_prefix_cons] at hbroken ⊢
        rw [hindent]
        exact hbroken
      rw [breakEscapes_replaces.passed c rest hescape, foldContinuations_brokenEscape.passed c _ hnot,
        foldContinuations_brokenEscape.passed c rest hbroken, ih]

/-- A break makes no line end of a carriage return, and a carriage return that is dropped makes no escape. -/
theorem dropCarriageReturns_breakEscapes (t : Text) :
    dropCarriageReturns (breakEscapes t) = breakEscapes (dropCarriageReturns t) := by
  induction t using breakEscapes.induct with
  | case1 => rfl
  | case2 rest ih =>
    change dropCarriageReturns (breakEscapes (lineEscape ++ rest)) = breakEscapes (dropCarriageReturns (lineEscape ++ rest))
    rw [breakEscapes_replaces.found, dropCarriageReturns_replaces.append (by decide),
      dropCarriageReturns_replaces.append (by decide), breakEscapes_replaces.found, ih]
  | case3 c rest hne ih =>
    have hescape := not_lineEscape_prefix hne
    by_cases hend : ['\r', '\n'] <+: c :: rest
    · obtain ⟨u, hu⟩ := hend
      obtain ⟨rfl, rfl⟩ := List.cons.inj hu
      rw [List.append_eq, breakEscapes_replaces.append (by decide), dropCarriageReturns_replaces.append (by decide),
        dropCarriageReturns_replaces.append (by decide), breakEscapes_replaces.append (by decide)] at ih
      change dropCarriageReturns (breakEscapes (['\r', '\n'] ++ u)) = breakEscapes (dropCarriageReturns (['\r', '\n'] ++ u))
      rw [breakEscapes_replaces.append (by decide), dropCarriageReturns_replaces.found, dropCarriageReturns_replaces.found,
        breakEscapes_replaces.append (by decide), List.append_cancel_left ih]
    · have hfeed : ['\n'] <+: breakEscapes rest ↔ ['\n'] <+: rest :=
        breakEscapes_replaces.prefix_iff (by decide) (by decide)
      have hletter : ['n'] <+: dropCarriageReturns rest ↔ ['n'] <+: rest :=
        dropCarriageReturns_replaces.prefix_iff (by decide) (by decide)
      have hnotEnd : ¬ ['\r', '\n'] <+: c :: breakEscapes rest := by
        rw [List.cons_prefix_cons] at hend ⊢
        rw [hfeed]
        exact hend
      have hnotEscape : ¬ lineEscape <+: c :: dropCarriageReturns rest := by
        rw [lineEscape, List.cons_prefix_cons] at hescape ⊢
        rw [hletter]
        exact hescape
      rw [breakEscapes_replaces.passed c rest hescape, dropCarriageReturns_replaces.passed c _ hnotEnd,
        dropCarriageReturns_replaces.passed c rest hend, breakEscapes_replaces.passed c _ hnotEscape, ih]

lemma logicalLines_breakEscapes (t : Text) : logicalLines (breakEscapes t) = logicalLines t := by
  rw [logicalLines, dropCarriageReturns_breakEscapes, foldContinuations_breakEscapes]
  rfl

/-- Whether an escape is written in one line or over two makes no difference: the tests are the same, or the error is,
with its place. -/
theorem parse_breakEscapes (suite : Text) (file : Option Text) (t : Text) :
    parse suite file (breakEscapes t) = parse suite file t := by
  rw [parse, parse, logicalLines_breakEscapes]

/-- A trace over two lines has a line feed where it is broken. -/
example :
    parse [] none "Trace\n  O> foo => STACKTRACE boom\\\n  in FOO".toList =
      .ok [TestCase.ofStatements [] "Trace".toList
        [.command .observer "foo".toList (.stackTrace "boom\nin FOO".toList)]] := by
  rfl

end SuiteRunner.Proofs
