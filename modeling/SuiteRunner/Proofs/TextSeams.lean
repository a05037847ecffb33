import SuiteRunner.Proofs.SettledLines

/-!
# Texts one below the other

Two texts with a line feed between them are one text. Its logical lines are those of the first and those of the second,
unless the line feed is part of something longer: of a line end with a carriage return, or of a continuation.
-/

namespace SuiteRunner.Proofs
open TestFile

section Seam

variable {f : Text → Text} {d : Char} {p replacement : Text}

lemma prefix_append_seam_iff (hd : d ≠ '\n') (hp : '\n' ∉ p) {a t : Text} :
    d :: '\n' :: p <+: a ++ '\n' :: t ↔ d :: '\n' :: p <+: a ∨ (a = [d] ∧ p <+: t) := by
  cases a with
  | nil => simp [List.cons_prefix_cons, hd]
  | cons c a =>
    cases a with
    | nil => simp [List.cons_prefix_cons, eq_comm]
    | cons e a =>
      simp only [List.cons_append, List.cons_prefix_cons, prefix_append_newline_iff hp]
      simp

lemma getLast?_append_of_eq_some {a b : Text} (h : b.getLast? = some d) : (a ++ b).getLast? = some d := by
  rw [List.getLast?_append, h]
  rfl

lemma Replaces.append_newline (hf : Replaces f (d :: '\n' :: p) replacement) (hd : d ≠ '\n') (hp : '\n' ∉ p)
    {a t : Text} (h : ¬ (a.getLast? = some d ∧ p <+: t)) : f (a ++ '\n' :: t) = f a ++ '\n' :: f t := by
  -- on the length of the first text: an occurrence of the pattern takes several characters off it at once
  induction hn : a.length using Nat.strong_induction_on generalizing a with
  | _ n ih =>
    by_cases hfound : d :: '\n' :: p <+: a
    · obtain ⟨u, rfl⟩ := hfound
      have hlast : ¬ (u.getLast? = some d ∧ p <+: t) := fun hu => h ⟨getLast?_append_of_eq_some hu.1, hu.2⟩
      have hshort : u.length < n := by
        rw [← hn]
        simp
        omega
      rw [List.append_assoc, hf.found, hf.found, ih u.length hshort hlast rfl, List.append_assoc]
    · have hseam : ¬ d :: '\n' :: p <+: a ++ '\n' :: t := by
        rw [prefix_append_seam_iff hd hp]
        rintro (hin | ⟨rfl, ht⟩)
        · exact hfound hin
        · exact h ⟨rfl, ht⟩
      cases a with
      | nil =>
        rw [List.nil_append] at hseam
        rw [List.nil_append, hf.passed '\n' t hseam, hf.nil, List.nil_append]
      | cons c u =>
        have hlast : ¬ (u.getLast? = some d ∧ p <+: t) :=
          fun hu => h ⟨getLast?_append_of_eq_some (a := [c]) hu.1, hu.2⟩
        have hshort : u.length < n := by
          rw [← hn]
          simp
        rw [List.cons_append] at hseam
        rw [List.cons_append, hf.passed c _ hseam, hf.passed c u hfound, ih u.length hshort hlast rfl,
          List.cons_append]

lemma Replaces.prefix_iff {y z : Char} {pattern : Text} (hf : Replaces f (y :: pattern) (z :: replacement))
    (hy : y ∉ p) (hz : z ∉ p) {t : Text} : p <+: f t ↔ p <+: t := by
  induction p generalizing t with
  | nil => simp
  | cons x p ih =>
    rw [List.mem_cons, not_or] at hy hz
    by_cases hfound : y :: pattern <+: t
    · obtain ⟨u, rfl⟩ := hfound
      rw [hf.found, List.cons_append, List.cons_append, List.cons_prefix_cons, List.cons_prefix_cons]
      exact iff_of_false (fun h => hz.1 h.1.symm) (fun h => hy.1 h.1.symm)
    · cases t with
      | nil => rw [hf.nil]
      | cons c u => rw [hf.passed c u hfound, List.cons_prefix_cons, List.cons_prefix_cons, ih hy.2 hz.2]

end Seam

lemma getLast?_dropCarriageReturns (t : Text) : (dropCarriageReturns t).getLast? = t.getLast? := by
  induction t using dropCarriageReturns.induct with
  | case1 => rfl
  | case2 rest ih => rw [dropCarriageReturns, List.getLast?_cons, List.getLast?_cons, List.getLast?_cons, ih]; rfl
  | case3 c rest hne ih =>
    have hpass : dropCarriageReturns (c :: rest) = c :: dropCarriageReturns rest := by
      rw [dropCarriageReturns]
      exact hne
    rw [hpass, List.getLast?_cons, List.getLast?_cons, ih]

/-- The lines of a text once its continuations are folded, with those that have no content. -/
def foldedLines (t : Text) : List Text :=
  (foldContinuations (dropCarriageReturns t)).lines

lemma logicalLines_eq (t : Text) : logicalLines t = (foldedLines t).filter hasContent :=
  rfl

lemma lines_append_newline (a b : Text) : (a ++ '\n' :: b).lines = a.lines ++ b.lines :=
  List.splitOn_append_cons_self a b

lemma dropCarriageReturns_append_newline {a : Text} (hreturn : a.getLast? ≠ some '\r') (b : Text) :
    dropCarriageReturns (a ++ '\n' :: b) = dropCarriageReturns a ++ '\n' :: dropCarriageReturns b :=
  dropCarriageReturns_replaces.append_newline (by decide) List.not_mem_nil fun h => hreturn h.1

lemma foldedLines_append_newline {a b : Text} (hreturn : a.getLast? ≠ some '\r')
    (hfold : ¬ (a.getLast? = some '\\' ∧ "  ".toList <+: b)) :
    foldedLines (a ++ '\n' :: b) = foldedLines a ++ foldedLines b := by
  have hindent : "  ".toList <+: dropCarriageReturns b ↔ "  ".toList <+: b :=
    dropCarriageReturns_replaces.prefix_iff (by decide) (by decide)
  have hseam : ¬ ((dropCarriageReturns a).getLast? = some '\\' ∧ "  ".toList <+: dropCarriageReturns b) := by
    rw [getLast?_dropCarriageReturns, hindent]
    exact hfold
  rw [foldedLines, dropCarriageReturns_append_newline hreturn,
    foldContinuations_replaces.append_newline (by decide) (by decide) hseam, lines_append_newline]
  rfl

theorem logicalLines_append_newline {a b : Text} (hreturn : a.getLast? ≠ some '\r')
    (hfold : ¬ (a.getLast? = some '\\' ∧ "  ".toList <+: b)) :
    logicalLines (a ++ '\n' :: b) = logicalLines a ++ logicalLines b := by
  rw [logicalLines_eq, foldedLines_append_newline hreturn hfold, List.filter_append]
  rfl

end SuiteRunner.Proofs
