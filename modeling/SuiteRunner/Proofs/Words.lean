import Mathlib.Tactic.Common
import SuiteRunner.Text.Basic

/-!
# Words

The pieces between separators hold no separator, so that the words of a text hold no blank. Words written with single
spaces between them are the words of what is written.
-/

namespace SuiteRunner.Proofs

/-- The text is one word. -/
structure IsWord (t : Text) : Prop where
  ne_nil : t ≠ []
  no_blank : ∀ c ∈ t, isBlank c = false

lemma isWord_iff {t : Text} : IsWord t ↔ (! t.isEmpty && t.all fun c => ! isBlank c) = true := by
  have hparts : (! t.isEmpty && t.all fun c => ! isBlank c) = true ↔ t ≠ [] ∧ ∀ c ∈ t, isBlank c = false := by simp
  exact ⟨fun h => hparts.mpr ⟨h.ne_nil, h.no_blank⟩, fun h => ⟨(hparts.mp h).1, (hparts.mp h).2⟩⟩

instance (t : Text) : Decidable (IsWord t) :=
  decidable_of_iff _ isWord_iff.symm

/-- The text is its words with single spaces between them. -/
def IsEvenlySpaced (t : Text) : Prop :=
  Text.unwords t.words = t

lemma forall_mem_of_mem_splitOnP {p : Char → Bool} {t piece : Text} (h : piece ∈ t.splitOnP p) :
    ∀ c ∈ piece, c ∈ t ∧ p c = false := by
  induction t generalizing piece with
  | nil =>
    rw [List.splitOnP_nil, List.mem_singleton] at h
    simp [h]
  | cons d t ih =>
    have htail {piece : Text} (hpiece : piece ∈ t.splitOnP p) : ∀ c ∈ piece, c ∈ d :: t ∧ p c = false :=
      fun c hc => (ih hpiece c hc).imp_left (List.mem_cons_of_mem d)
    rw [List.splitOnP_cons_eq_if_modifyHead] at h
    by_cases hd : p d = true
    · rw [if_pos hd] at h
      rcases List.mem_cons.mp h with rfl | hmem
      · simp
      · exact htail hmem
    · rw [if_neg hd] at h
      cases hsplit : t.splitOnP p with
      | nil => exact absurd hsplit (List.splitOnP_ne_nil p t)
      | cons first rest =>
        rw [hsplit] at h htail
        rcases List.mem_cons.mp h with rfl | hmem
        · exact List.forall_mem_cons.mpr ⟨⟨List.mem_cons_self, by simpa using hd⟩, htail List.mem_cons_self⟩
        · exact htail (List.mem_cons_of_mem first hmem)

lemma no_separator_of_mem_splitOnP {p : Char → Bool} {t piece : Text} (h : piece ∈ t.splitOnP p) :
    ∀ c ∈ piece, p c = false :=
  fun c hc => (forall_mem_of_mem_splitOnP h c hc).2

lemma isWord_of_mem_words {t word : Text} (h : word ∈ t.words) : IsWord word := by
  rw [Text.words, List.mem_filter] at h
  exact ⟨by simpa using h.2, no_separator_of_mem_splitOnP h.1⟩

lemma cutAt_split (mark : Char) (t : Text) :
    t = (t.cutAt mark).1 ∨ t = (t.cutAt mark).1 ++ mark :: (t.cutAt mark).2 := by
  induction t with
  | nil => exact .inl rfl
  | cons c t ih =>
    by_cases hc : c = mark
    · right
      simp [Text.cutAt, hc]
    · rw [Text.cutAt, if_neg hc]
      rcases ih with h | h
      · exact .inl (congrArg (c :: ·) h)
      · exact .inr (congrArg (c :: ·) h)

lemma not_mem_cutAt (mark : Char) (t : Text) : mark ∉ (t.cutAt mark).1 := by
  induction t with
  | nil => simp [Text.cutAt]
  | cons c t ih =>
    rw [Text.cutAt]
    split
    case isTrue => simp
    case isFalse hc => simpa [ih] using fun h => hc h.symm

lemma cutAt_append_cons {mark : Char} {a : Text} (h : mark ∉ a) (b : Text) : (a ++ mark :: b).cutAt mark = (a, b) := by
  induction a with
  | nil => rw [List.nil_append, Text.cutAt, if_pos rfl]
  | cons c a ih =>
    rw [List.mem_cons, not_or] at h
    rw [List.cons_append, Text.cutAt, if_neg (Ne.symm h.1), ih h.2]

lemma cutAt_of_mem {mark : Char} {t : Text} (h : mark ∈ t) : t = (t.cutAt mark).1 ++ mark :: (t.cutAt mark).2 := by
  rcases cutAt_split mark t with ht | ht
  · rw [ht] at h
    exact absurd h (not_mem_cutAt mark t)
  · exact ht

lemma mem_of_mem_cutAt {mark c : Char} {t : Text} (h : c ∈ (t.cutAt mark).1) : c ∈ t := by
  rcases cutAt_split mark t with ht | ht
  · rwa [ht]
  · rw [ht]
    exact List.mem_append_left _ h

lemma words_of_no_blank {a : Text} (hne : a ≠ []) (ha : ∀ c ∈ a, isBlank c = false) : a.words = [a] := by
  have hpieces : a.splitOnP isBlank = [a] := by
    rw [List.splitOnP_eq_singleton]
    simpa using ha
  rw [Text.words, hpieces]
  simpa using hne

lemma words_append_space {a : Text} (hne : a ≠ []) (ha : ∀ c ∈ a, isBlank c = false) (b : Text) :
    Text.words (a ++ ' ' :: b) = a :: b.words := by
  have hpieces : (a ++ ' ' :: b).splitOnP isBlank = a :: b.splitOnP isBlank :=
    List.splitOnP_append_cons_of_forall_mem (by simpa using ha) ' ' (by decide) b
  rw [Text.words, hpieces, List.filter_cons_of_pos (by simpa using hne)]
  rfl

lemma firstWord_eq_cutAt {t : Text} (h : IsWord (t.cutAt ' ').1) : t.words.headD [] = (t.cutAt ' ').1 := by
  rcases cutAt_split ' ' t with ht | ht
  · have hwords : t.words = [(t.cutAt ' ').1] := by
      rw [← ht]
      exact words_of_no_blank (ht ▸ h.ne_nil) (ht ▸ h.no_blank)
    rw [hwords]
    rfl
  · have hwords : t.words = (t.cutAt ' ').1 :: (t.cutAt ' ').2.words := by
      rw [← words_append_space h.ne_nil h.no_blank, ← ht]
    rw [hwords]
    rfl

lemma unwords_cons_cons (a b : Text) (words : List Text) :
    Text.unwords (a :: b :: words) = a ++ ' ' :: Text.unwords (b :: words) :=
  rfl

/-- Words are read back from what they are written as. -/
theorem words_unwords {words : List Text} (h : ∀ word ∈ words, IsWord word) :
    (Text.unwords words).words = words := by
  induction words with
  | nil => rfl
  | cons a words ih =>
    obtain ⟨ha, hwords⟩ := List.forall_mem_cons.mp h
    cases words with
    | nil =>
      have hsame : Text.unwords [a] = a := by simp [Text.unwords]
      rw [hsame, words_of_no_blank ha.ne_nil ha.no_blank]
    | cons b words => rw [unwords_cons_cons, words_append_space ha.ne_nil ha.no_blank, ih hwords]

lemma isEvenlySpaced_unwords {words : List Text} (h : ∀ word ∈ words, IsWord word) :
    IsEvenlySpaced (Text.unwords words) := by
  rw [IsEvenlySpaced, words_unwords h]

lemma IsEvenlySpaced.eq_space {t : Text} (h : IsEvenlySpaced t) {c : Char} (hc : c ∈ t) (hblank : isBlank c = true) :
    c = ' ' := by
  have hall : ∀ words : List Text, (∀ word ∈ words, IsWord word) → c ∈ Text.unwords words → c = ' ' := by
    intro words hwords hmem
    induction words with
    | nil => cases hmem
    | cons a words ih =>
      obtain ⟨ha, hrest⟩ := List.forall_mem_cons.mp hwords
      have hnot : c ∉ a := fun hmem => by simp [ha.no_blank c hmem] at hblank
      cases words with
      | nil => exact absurd (by simpa [Text.unwords] using hmem) hnot
      | cons b words =>
        rw [unwords_cons_cons, List.mem_append, List.mem_cons] at hmem
        rcases hmem with hfirst | hspace | hlater
        · exact absurd hfirst hnot
        · exact hspace
        · exact ih hrest hlater
  apply hall t.words fun word hword => isWord_of_mem_words hword
  rwa [h]

lemma unwords_ne_nil {a : Text} (ha : IsWord a) (words : List Text) : Text.unwords (a :: words) ≠ [] := by
  cases words with
  | nil => simpa [Text.unwords] using ha.ne_nil
  | cons b words => simp [unwords_cons_cons]

end SuiteRunner.Proofs
