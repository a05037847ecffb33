import SuiteRunner.Text.Basic
import Mathlib.Data.List.DropRight
import Mathlib.Tactic.Common

/-!
# Flush text

A text is flush on a side when it has no blank there. Trimming makes a text flush on both sides and changes
nothing in one that is flush already.
-/

namespace SuiteRunner.Proofs

/-- The text is empty or starts with a character that is not blank. -/
def IsFlushLeft (t : Text) : Prop :=
  ∀ c ∈ t.head?, isBlank c = false

/-- The text is empty or ends with a character that is not blank. -/
def IsFlushRight (t : Text) : Prop :=
  ∀ c ∈ t.getLast?, isBlank c = false

lemma isFlushLeft_cons {c : Char} {t : Text} : IsFlushLeft (c :: t) ↔ isBlank c = false := by
  simp [IsFlushLeft]

lemma isFlushLeft_append {a b : Text} (ha : a ≠ []) : IsFlushLeft (a ++ b) ↔ IsFlushLeft a := by
  cases a with
  | nil => exact absurd rfl ha
  | cons c a => rw [List.cons_append, isFlushLeft_cons, isFlushLeft_cons]

lemma isFlushRight_append {a b : Text} (hb : b ≠ []) : IsFlushRight (a ++ b) ↔ IsFlushRight b := by
  have hlast : (a ++ b).getLast? = b.getLast? := List.getLast?_append_of_ne_nil a hb
  rw [IsFlushRight, IsFlushRight, hlast]

lemma dropBlank_eq_self {t : Text} (h : IsFlushLeft t) : t.dropBlank = t := by
  cases t with
  | nil => rfl
  | cons c t => rw [Text.dropBlank, List.dropWhile_cons, isFlushLeft_cons.mp h]; rfl

lemma isFlushLeft_dropBlank (t : Text) : IsFlushLeft t.dropBlank := by
  induction t with
  | nil => simp [IsFlushLeft, Text.dropBlank]
  | cons c t ih =>
    rw [Text.dropBlank, List.dropWhile_cons]
    by_cases hc : isBlank c = true
    · rw [if_pos hc]
      exact ih
    · rw [if_neg hc, isFlushLeft_cons]
      simpa using hc

lemma dropBlank_append {a : Text} (ha : ∀ c ∈ a, isBlank c = true) (t : Text) :
    Text.dropBlank (a ++ t) = t.dropBlank :=
  List.dropWhile_append_of_pos ha

lemma dropBlank_eq_nil_iff {t : Text} : t.dropBlank = [] ↔ ∀ c ∈ t, isBlank c = true :=
  List.dropWhile_eq_nil_iff

lemma dropBlank_append_of_ne_nil {a : Text} (ha : a.dropBlank ≠ []) (t : Text) :
    Text.dropBlank (a ++ t) = a.dropBlank ++ t := by
  rw [Text.dropBlank] at ha
  rw [Text.dropBlank, List.dropWhile_append, if_neg (by simpa using ha)]
  rfl

lemma dropBlank_cons {c : Char} (hc : isBlank c = true) (t : Text) : Text.dropBlank (c :: t) = t.dropBlank := by
  rw [Text.dropBlank, List.dropWhile_cons, if_pos hc]
  rfl

lemma exists_blanks_dropBlank (t : Text) : ∃ a, (∀ c ∈ a, isBlank c = true) ∧ t = a ++ t.dropBlank := by
  refine ⟨t.takeWhile isBlank, ?_, List.takeWhile_append_dropWhile.symm⟩
  intro c hc
  exact List.mem_takeWhile_imp hc

lemma mem_of_mem_dropBlank {c : Char} {t : Text} (h : c ∈ t.dropBlank) : c ∈ t :=
  (List.dropWhile_sublist isBlank).mem h

lemma dropBlankEnd_eq_self {t : Text} (h : IsFlushRight t) : t.dropBlankEnd = t := by
  have hr : IsFlushLeft t.reverse := by
    rw [IsFlushLeft, List.head?_reverse]
    exact h
  rw [Text.dropBlankEnd, dropBlank_eq_self hr, List.reverse_reverse]

lemma isFlushRight_dropBlankEnd (t : Text) : IsFlushRight t.dropBlankEnd := by
  rw [IsFlushRight, Text.dropBlankEnd, List.getLast?_reverse]
  exact isFlushLeft_dropBlank _

lemma dropBlankEnd_append_cons {c : Char} (hc : isBlank c = false) (a b : Text) :
    Text.dropBlankEnd (a ++ c :: b) = a ++ c :: Text.dropBlankEnd b := by
  obtain ⟨s, hs, hb⟩ := exists_blanks_dropBlank b.reverse
  have hrest : IsFlushLeft (Text.dropBlank b.reverse ++ c :: a.reverse) := by
    by_cases hd : Text.dropBlank b.reverse = []
    · rw [hd]
      exact isFlushLeft_cons.mpr hc
    · rw [isFlushLeft_append hd]
      exact isFlushLeft_dropBlank b.reverse
  have hrev : (a ++ c :: b).reverse = s ++ (Text.dropBlank b.reverse ++ c :: a.reverse) := by
    rw [List.reverse_append, List.reverse_cons, ← List.append_assoc, ← hb, List.append_assoc]
    rfl
  rw [Text.dropBlankEnd, hrev, dropBlank_append hs, dropBlank_eq_self hrest, Text.dropBlankEnd]
  simp

lemma dropBlankEnd_cons {t : Text} (h : t.dropBlankEnd ≠ []) (c : Char) :
    Text.dropBlankEnd (c :: t) = c :: t.dropBlankEnd := by
  have hne : (Text.dropBlank t.reverse).isEmpty = false := by
    rw [Text.dropBlankEnd, ne_eq, List.reverse_eq_nil_iff] at h
    simpa using h
  rw [Text.dropBlankEnd, List.reverse_cons, Text.dropBlank, List.dropWhile_append]
  rw [Text.dropBlank] at hne
  rw [hne, Text.dropBlankEnd, Text.dropBlank]
  simp

lemma dropBlankEnd_append_blanks {b : Text} (hb : ∀ c ∈ b, isBlank c = true) (a : Text) :
    Text.dropBlankEnd (a ++ b) = a.dropBlankEnd := by
  rw [Text.dropBlankEnd, List.reverse_append, dropBlank_append]
  · rfl
  · intro c hc
    exact hb c (List.mem_reverse.mp hc)

lemma dropBlankEnd_eq_nil {t : Text} (h : ∀ c ∈ t, isBlank c = true) : t.dropBlankEnd = [] :=
  dropBlankEnd_append_blanks h []

lemma exists_blanks_dropBlankEnd (t : Text) : ∃ b, (∀ c ∈ b, isBlank c = true) ∧ t = t.dropBlankEnd ++ b := by
  obtain ⟨s, hs, ht⟩ := exists_blanks_dropBlank t.reverse
  refine ⟨s.reverse, ?_, ?_⟩
  · intro c hc
    exact hs c (List.mem_reverse.mp hc)
  · rw [Text.dropBlankEnd, ← List.reverse_append, ← ht, List.reverse_reverse]

lemma mem_of_mem_dropBlankEnd {c : Char} {t : Text} (h : c ∈ t.dropBlankEnd) : c ∈ t := by
  obtain ⟨b, -, ht⟩ := exists_blanks_dropBlankEnd t
  rw [ht]
  exact List.mem_append_left b h

lemma isFlushLeft_dropBlankEnd {t : Text} (h : IsFlushLeft t) : IsFlushLeft t.dropBlankEnd := by
  obtain ⟨b, -, ht⟩ := exists_blanks_dropBlankEnd t
  by_cases hn : t.dropBlankEnd = []
  · simp [hn, IsFlushLeft]
  · rw [ht, isFlushLeft_append hn] at h
    exact h

lemma trim_eq_dropBlankEnd {t : Text} (h : IsFlushLeft t) : t.trim = t.dropBlankEnd := by
  rw [Text.trim, dropBlank_eq_self h]

lemma trim_eq_self {t : Text} (hl : IsFlushLeft t) (hr : IsFlushRight t) : t.trim = t := by
  rw [trim_eq_dropBlankEnd hl, dropBlankEnd_eq_self hr]

lemma isFlushLeft_trim (t : Text) : IsFlushLeft t.trim :=
  isFlushLeft_dropBlankEnd (isFlushLeft_dropBlank t)

lemma isFlushRight_trim (t : Text) : IsFlushRight t.trim :=
  isFlushRight_dropBlankEnd _

theorem trim_eq_self_iff (t : Text) : t.trim = t ↔ IsFlushLeft t ∧ IsFlushRight t := by
  constructor
  · intro h
    rw [← h]
    exact ⟨isFlushLeft_trim t, isFlushRight_trim t⟩
  · rintro ⟨hl, hr⟩
    exact trim_eq_self hl hr

lemma mem_of_mem_trim {c : Char} {t : Text} (h : c ∈ t.trim) : c ∈ t :=
  mem_of_mem_dropBlank (mem_of_mem_dropBlankEnd h)

end SuiteRunner.Proofs
