import SuiteRunner.TestFile.LogicalLines
import SuiteRunner.Proofs.Flush
import SuiteRunner.Proofs.Words

/-!
# Lines that stand for themselves

A text is made of lines, each with a line feed behind it. If no line ends with a carriage return or a backslash,
none of them is changed or joined with the next one, and those with content are the logical lines.
-/

namespace SuiteRunner.Proofs
open TestFile

/-- The lines, each with the line feed that ends it. -/
def joinLines (ls : List Text) : Text :=
  ls.flatMap (· ++ ['\n'])

/-- The line feed behind the line is its end and nothing else. -/
structure IsPlainLine (l : Text) : Prop where
  newline_notMem : '\n' ∉ l
  no_return : l.getLast? ≠ some '\r'
  no_backslash : l.getLast? ≠ some '\\'

lemma joinLines_cons (l : Text) (ls : List Text) : joinLines (l :: ls) = l ++ '\n' :: joinLines ls := by
  simp [joinLines]

lemma dropCarriageReturns_cons {c : Char} {t : Text} (h : ¬ (c = '\r' ∧ t.head? = some '\n')) :
    dropCarriageReturns (c :: t) = c :: dropCarriageReturns t := by
  rw [dropCarriageReturns]
  rintro rest rfl rfl
  exact h ⟨rfl, rfl⟩

lemma foldContinuations_cons {c : Char} {t : Text} (h : ¬ (c = '\\' ∧ t.head? = some '\n')) :
    foldContinuations (c :: t) = c :: foldContinuations t := by
  rw [foldContinuations]
  rintro rest rfl rfl
  exact h ⟨rfl, rfl⟩

lemma passes_line {f : Text → Text} {d : Char} (hd : d ≠ '\n')
    (hf : ∀ c t, ¬ (c = d ∧ t.head? = some '\n') → f (c :: t) = c :: f t) {l : Text} (hl : '\n' ∉ l)
    (hlast : l.getLast? ≠ some d) (t : Text) : f (l ++ '\n' :: t) = l ++ '\n' :: f t := by
  induction l with
  | nil =>
    refine hf '\n' t ?_
    rintro ⟨hc, -⟩
    exact hd hc.symm
  | cons c l ih =>
    have hnext : ¬ (c = d ∧ (l ++ '\n' :: t).head? = some '\n') := by
      rintro ⟨rfl, hhead⟩
      cases l with
      | nil => exact hlast rfl
      | cons e l =>
        rw [List.cons_append, List.head?_cons, Option.some.injEq] at hhead
        exact hl (by simp [hhead])
    have htail : '\n' ∉ l := fun hm => hl (List.mem_cons_of_mem c hm)
    have hend : l.getLast? ≠ some d := by
      intro he
      apply hlast
      cases l with
      | nil => cases he
      | cons e l => rw [List.getLast?_cons_cons, he]
    rw [List.cons_append, hf c _ hnext, ih htail hend, List.cons_append]

lemma map_joinLines {f : Text → Text} (hnil : f [] = []) {ls : List Text}
    (hf : ∀ l ∈ ls, ∀ t, f (l ++ '\n' :: t) = l ++ '\n' :: f t) : f (joinLines ls) = joinLines ls := by
  induction ls with
  | nil => exact hnil
  | cons l ls ih =>
    rw [joinLines_cons, hf l List.mem_cons_self, ih fun m hm => hf m (List.mem_cons_of_mem l hm)]

lemma newline_notMem_of_mem_lines {t l : Text} (h : l ∈ t.lines) : '\n' ∉ l := by
  rw [Text.lines, List.splitOn_eq_splitOnP] at h
  intro hmem
  simpa using no_separator_of_mem_splitOnP h '\n' hmem

lemma lines_joinLines {ls : List Text} (h : ∀ l ∈ ls, '\n' ∉ l) : (joinLines ls).lines = ls ++ [[]] := by
  induction ls with
  | nil => rfl
  | cons l ls ih =>
    rw [Text.lines] at ih
    rw [joinLines_cons, Text.lines, List.splitOn_append_cons_self_of_not_mem (h l List.mem_cons_self),
      ih fun m hm => h m (List.mem_cons_of_mem l hm)]
    rfl

theorem logicalLines_joinLines {ls : List Text} (hplain : ∀ l ∈ ls, IsPlainLine l)
    (hcontent : ∀ l ∈ ls, hasContent l = true) : logicalLines (joinLines ls) = ls := by
  have hreturns : dropCarriageReturns (joinLines ls) = joinLines ls :=
    map_joinLines rfl fun l hl => passes_line (by decide) (fun _ _ => dropCarriageReturns_cons)
      (hplain l hl).newline_notMem (hplain l hl).no_return
  have hfold : foldContinuations (joinLines ls) = joinLines ls :=
    map_joinLines rfl fun l hl => passes_line (by decide) (fun _ _ => foldContinuations_cons)
      (hplain l hl).newline_notMem (hplain l hl).no_backslash
  rw [logicalLines, hreturns, hfold, lines_joinLines fun l hl => (hplain l hl).newline_notMem,
    List.filter_append, List.filter_eq_self.mpr hcontent]
  exact List.append_nil ls

end SuiteRunner.Proofs
