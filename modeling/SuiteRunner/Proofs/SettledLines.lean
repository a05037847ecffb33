import SuiteRunner.Proofs.PlainLines
import Mathlib.Data.List.Chain

/-!
# Settled lines

The logical lines of a text, written one below the other, are a text again, and its logical lines need not be the same:
what was left out may have kept two lines apart. The main statement is that they are the same exactly if no line ends
with a carriage return in front of another line, and none ends with a backslash in front of an indented one. Of lists of
texts in general it says which are the logical lines of the text that they make up.
-/

namespace SuiteRunner.Proofs
open TestFile

/-- Every occurrence of the pattern becomes the replacement, from left to right, and nothing else is changed. -/
structure Replaces (f : Text → Text) (pattern replacement : Text) : Prop where
  nil : f [] = []
  found : ∀ t, f (pattern ++ t) = replacement ++ f t
  passed : ∀ c t, ¬ pattern <+: c :: t → f (c :: t) = c :: f t

lemma dropCarriageReturns_replaces : Replaces dropCarriageReturns ['\r', '\n'] ['\n'] := by
  refine ⟨rfl, fun t => ?_, fun c t h => ?_⟩
  · rw [List.cons_append, List.cons_append, List.nil_append, dropCarriageReturns]
    rfl
  · rw [dropCarriageReturns]
    rintro rest rfl rfl
    exact h ⟨rest, rfl⟩

lemma foldContinuations_replaces : Replaces foldContinuations ['\\', '\n', ' ', ' '] ['\\', 'n'] := by
  refine ⟨rfl, fun t => ?_, fun c t h => ?_⟩
  · simp only [List.cons_append, List.nil_append]
    rw [foldContinuations]
  · rw [foldContinuations]
    rintro rest rfl rfl
    exact h ⟨rest, rfl⟩

section Replacing

variable {f : Text → Text} {pattern replacement : Text}

lemma Replaces.eq_self (hf : Replaces f pattern replacement) {t : Text} (h : ¬ pattern <:+: t) : f t = t := by
  induction t with
  | nil => exact hf.nil
  | cons c t ih =>
    rw [List.infix_cons_iff, not_or] at h
    rw [hf.passed c t h.1, ih h.2]

lemma Replaces.length_le (hf : Replaces f pattern replacement) (hshort : replacement.length < pattern.length)
    (t : Text) : (f t).length ≤ t.length := by
  induction hn : t.length using Nat.strong_induction_on generalizing t with
  | _ n ih =>
    by_cases hp : pattern <+: t
    · obtain ⟨u, rfl⟩ := hp
      rw [List.length_append] at hn
      have hu := ih u.length (by omega) u rfl
      rw [hf.found, List.length_append]
      omega
    · cases t with
      | nil => rw [hf.nil]; exact Nat.zero_le _
      | cons c u =>
        rw [List.length_cons] at hn
        have hu := ih u.length (by omega) u rfl
        rw [hf.passed c u hp, List.length_cons]
        omega

lemma Replaces.length_lt (hf : Replaces f pattern replacement) (hshort : replacement.length < pattern.length)
    {t : Text} (h : pattern <:+: t) : (f t).length < t.length := by
  induction t with
  | nil =>
    rw [List.eq_nil_of_infix_nil h] at hshort
    exact absurd hshort (Nat.not_lt_zero _)
  | cons c t ih =>
    by_cases hp : pattern <+: c :: t
    · obtain ⟨u, hu⟩ := hp
      have hle := hf.length_le hshort u
      rw [← hu, hf.found, List.length_append, List.length_append]
      omega
    · have hlt := ih ((List.infix_cons_iff.mp h).resolve_left hp)
      rw [hf.passed c t hp, List.length_cons, List.length_cons]
      omega

end Replacing

section Seams

variable {d : Char} {p : Text}

lemma prefix_append_newline_iff (hp : '\n' ∉ p) {b t : Text} : p <+: b ++ '\n' :: t ↔ p <+: b := by
  constructor
  · intro h
    rcases List.prefix_or_prefix_of_prefix h (List.prefix_append b _) with hshort | ⟨u, rfl⟩
    · exact hshort
    · rw [List.prefix_append_right_inj] at h
      cases u with
      | nil => simp
      | cons c u =>
        rw [(List.cons_prefix_cons.mp h).1] at hp
        exact absurd (by simp) hp
  · exact fun h => h.trans (List.prefix_append b _)

lemma infix_append_newline_iff (hd : d ≠ '\n') {a t : Text} (ha : '\n' ∉ a) :
    d :: '\n' :: p <:+: a ++ '\n' :: t ↔ (a.getLast? = some d ∧ p <+: t) ∨ d :: '\n' :: p <:+: t := by
  induction a with
  | nil => simp [List.infix_cons_iff, List.cons_prefix_cons, hd]
  | cons c a ih =>
    have htail : '\n' ∉ a := fun hm => ha (List.mem_cons_of_mem c hm)
    rw [List.cons_append, List.infix_cons_iff, ih htail, List.cons_prefix_cons]
    cases a with
    | nil => simp [List.cons_prefix_cons, eq_comm]
    | cons e a =>
      have he : '\n' ≠ e := fun he => htail (List.mem_cons.mpr (.inl he))
      simp [List.cons_prefix_cons, he]

lemma unlines_cons_cons (a b : Text) (ls : List Text) :
    Text.unlines (a :: b :: ls) = a ++ '\n' :: Text.unlines (b :: ls) :=
  rfl

lemma not_infix_unlines_iff (hd : d ≠ '\n') (hp : '\n' ∉ p) {ls : List Text} (hls : ∀ l ∈ ls, '\n' ∉ l) :
    ¬ d :: '\n' :: p <:+: Text.unlines ls ↔ ls.IsChain fun a b => ¬ (a.getLast? = some d ∧ p <+: b) := by
  induction ls with
  | nil => simp [Text.unlines]
  | cons a ls ih =>
    have ha : '\n' ∉ a := hls a List.mem_cons_self
    cases ls with
    | nil =>
      refine iff_of_true (fun h => ha ?_) (.singleton a)
      have hsame : Text.unlines [a] = a := by simp [Text.unlines]
      exact hsame ▸ h.subset (by simp)
    | cons b ls =>
      have hfirst : p <+: Text.unlines (b :: ls) ↔ p <+: b := by
        cases ls with
        | nil => simp [Text.unlines]
        | cons c ls => rw [unlines_cons_cons, prefix_append_newline_iff hp]
      rw [unlines_cons_cons, infix_append_newline_iff hd ha, not_or, hfirst, List.isChain_cons_cons,
        ih fun l hl => hls l (List.mem_cons_of_mem a hl)]

end Seams

/-- The first line may stand above the second one: the line feed between them is the end of a line and nothing else. -/
def StaysApart (a b : Text) : Prop :=
  a.getLast? ≠ some '\r' ∧ ¬ (a.getLast? = some '\\' ∧ "  ".toList <+: b)

lemma isChain_staysApart_iff {ls : List Text} (hls : ∀ l ∈ ls, '\n' ∉ l) :
    ls.IsChain StaysApart ↔
      ¬ ['\r', '\n'] <:+: Text.unlines ls ∧ ¬ ['\\', '\n', ' ', ' '] <:+: Text.unlines ls := by
  rw [not_infix_unlines_iff (by decide) List.not_mem_nil hls, not_infix_unlines_iff (by decide) (by decide) hls]
  simp only [List.isChain_iff_forall_rel_of_append_cons_cons]
  constructor
  · intro h
    exact ⟨fun a b before after hsplit hend => (h hsplit).1 hend.1, fun a b before after hsplit => (h hsplit).2⟩
  · rintro ⟨hreturn, hfold⟩ a b before after hsplit
    exact ⟨fun hend => hreturn hsplit ⟨hend, List.nil_prefix⟩, hfold hsplit⟩

section Lengths

lemma length_unlines (ls : List Text) : (Text.unlines ls).length = (joinLines ls).length - 1 := by
  induction ls with
  | nil => rfl
  | cons a ls ih =>
    cases ls with
    | nil => simp [Text.unlines, joinLines]
    | cons b ls =>
      have hpos : 0 < (joinLines (b :: ls)).length := by
        rw [joinLines_cons, List.length_append, List.length_cons]
        omega
      rw [unlines_cons_cons, joinLines_cons, List.length_append, List.length_append, List.length_cons,
        List.length_cons, ih]
      omega

lemma length_joinLines_filter_le (p : Text → Bool) (ls : List Text) :
    (joinLines (ls.filter p)).length ≤ (joinLines ls).length := by
  induction ls with
  | nil => exact le_rfl
  | cons a ls ih =>
    rw [List.filter_cons]
    split
    · rw [joinLines_cons, joinLines_cons, List.length_append, List.length_append, List.length_cons, List.length_cons]
      omega
    · rw [joinLines_cons, List.length_append, List.length_cons]
      omega

lemma length_unlines_filter_lines_le (p : Text → Bool) (t : Text) :
    (Text.unlines (t.lines.filter p)).length ≤ t.length := by
  have hwhole : Text.unlines t.lines = t := List.intercalate_splitOn '\n'
  have hle := length_joinLines_filter_le p t.lines
  have htotal := length_unlines t.lines
  rw [hwhole] at htotal
  rw [length_unlines]
  omega

end Lengths

lemma lines_unlines {ls : List Text} (hne : ls ≠ []) (hls : ∀ l ∈ ls, '\n' ∉ l) : (Text.unlines ls).lines = ls :=
  List.splitOn_intercalate '\n' hls hne

/-- A pattern that occurs is replaced by something shorter, so that the lines cannot all come back. -/
theorem logicalLines_unlines_eq_self_iff {ls : List Text} (hls : ∀ l ∈ ls, '\n' ∉ l)
    (hcontent : ∀ l ∈ ls, hasContent l = true) :
    logicalLines (Text.unlines ls) = ls ↔ ls.IsChain StaysApart := by
  rw [isChain_staysApart_iff hls, logicalLines]
  constructor
  · intro h
    have hle := length_unlines_filter_lines_le hasContent (foldContinuations (dropCarriageReturns (Text.unlines ls)))
    rw [h] at hle
    have hfold := foldContinuations_replaces.length_le (by decide) (dropCarriageReturns (Text.unlines ls))
    have hreturns : ¬ ['\r', '\n'] <:+: Text.unlines ls := by
      intro hp
      have hlt := dropCarriageReturns_replaces.length_lt (by decide) hp
      omega
    refine ⟨hreturns, fun hp => ?_⟩
    rw [dropCarriageReturns_replaces.eq_self hreturns] at hle
    have hlt := foldContinuations_replaces.length_lt (by decide) hp
    omega
  · rintro ⟨hreturns, hfold⟩
    rw [dropCarriageReturns_replaces.eq_self hreturns, foldContinuations_replaces.eq_self hfold]
    cases ls with
    | nil => decide
    | cons l ls => rw [lines_unlines (List.cons_ne_nil l ls) hls, List.filter_eq_self.mpr hcontent]

/-- The logical lines of a text are settled exactly if none of them is joined to the next one. -/
theorem logicalLines_idempotent_iff (t : Text) :
    logicalLines (Text.unlines (logicalLines t)) = logicalLines t ↔ (logicalLines t).IsChain StaysApart := by
  apply logicalLines_unlines_eq_self_iff
  · exact fun l hl => newline_notMem_of_mem_lines (List.mem_filter.mp hl).1
  · exact fun l hl => (List.mem_filter.mp hl).2

/-- The first character of the line that is not blank stands in it and does not start a comment. -/
def OpensContent (l : Text) : Prop :=
  ∃ lead c rest, l = lead ++ c :: rest ∧ (∀ b ∈ lead, isBlank b = true) ∧ isBlank c = false ∧ c ≠ '#'

lemma hasContent_eq_true_iff_opensContent {l : Text} : hasContent l = true ↔ OpensContent l := by
  constructor
  · intro h
    obtain ⟨lead, hlead, hl⟩ := exists_blanks_dropBlank l
    have hflush := isFlushLeft_dropBlank l
    rw [hasContent] at h
    cases hd : l.dropBlank with
    | nil => simp [hd] at h
    | cons c rest =>
      rw [hd] at h hl hflush
      exact ⟨lead, c, rest, hl, hlead, isFlushLeft_cons.mp hflush, by simpa using h⟩
  · rintro ⟨lead, c, rest, rfl, hlead, hblank, hmark⟩
    have hd : Text.dropBlank (lead ++ c :: rest) = c :: rest := by
      rw [dropBlank_append hlead, dropBlank_eq_self (isFlushLeft_cons.mpr hblank)]
    rw [hasContent, hd]
    simpa using hmark

/-- Texts come back as the logical lines of what they make up exactly if each is one line with content, none but the
last ends with a carriage return, and none ends with a backslash in front of one that starts with two spaces. -/
theorem logicalLines_unlines_eq_iff (ls : List Text) :
    logicalLines (Text.unlines ls) = ls ↔
      (∀ l ∈ ls, '\n' ∉ l ∧ OpensContent l) ∧
        (∀ i (h : i + 1 < ls.length), ls[i].getLast? ≠ some '\r') ∧
        ∀ i (h : i + 1 < ls.length), ¬ (ls[i].getLast? = some '\\' ∧ "  ".toList <+: ls[i + 1]) := by
  have hapart : ls.IsChain StaysApart ↔
      (∀ i (h : i + 1 < ls.length), ls[i].getLast? ≠ some '\r') ∧
        ∀ i (h : i + 1 < ls.length), ¬ (ls[i].getLast? = some '\\' ∧ "  ".toList <+: ls[i + 1]) := by
    rw [List.isChain_iff_getElem, ← forall_and]
    exact forall_congr' fun i => forall_and
  rw [← hapart]
  constructor
  · intro h
    -- whatever comes back has been cut at line feeds and found to have content
    have hline (l : Text) (hl : l ∈ ls) : '\n' ∉ l ∧ hasContent l = true := by
      rw [← h] at hl
      exact ⟨newline_notMem_of_mem_lines (List.mem_filter.mp hl).1, (List.mem_filter.mp hl).2⟩
    refine ⟨fun l hl => ⟨(hline l hl).1, hasContent_eq_true_iff_opensContent.mp (hline l hl).2⟩, ?_⟩
    exact (logicalLines_unlines_eq_self_iff (fun l hl => (hline l hl).1) fun l hl => (hline l hl).2).mp h
  · rintro ⟨hline, hchain⟩
    refine (logicalLines_unlines_eq_self_iff (fun l hl => (hline l hl).1) fun l hl => ?_).mpr hchain
    exact hasContent_eq_true_iff_opensContent.mpr (hline l hl).2

/-- A comment below a backslash keeps the trace apart from the next statement, but only once. -/
theorem logicalLines_not_idempotent :
    let t : Text := "Foo\n  O> foo => STACKTRACE a\\\n# note\n  1 => 1".toList
    logicalLines t = ["Foo".toList, "  O> foo => STACKTRACE a\\".toList, "  1 => 1".toList] ∧
      logicalLines (Text.unlines (logicalLines t)) =
        ["Foo".toList, "  O> foo => STACKTRACE a\\n1 => 1".toList] ∧
      logicalLines (Text.unlines (logicalLines t)) ≠ logicalLines t := by
  decide +kernel

end SuiteRunner.Proofs
