import SuiteRunner.Statement.Trace
import Mathlib.Data.List.Infix
import Mathlib.Tactic.Common

/-!
# Traces on one line

Writing a trace on one line and reading it back undo each other as far as they can: a trace comes back unless
it holds the escape itself, and a line comes back unless it holds a line feed.
-/

namespace SuiteRunner.Proofs

/-- How a line feed is written on one line. -/
def lineEscape : Text := ['\\', 'n']

/-- The text holds a backslash with the letter n right after it. -/
def HoldsEscape (t : Text) : Prop :=
  lineEscape <:+: t

lemma holdsEscape_cons {c : Char} {t : Text} :
    HoldsEscape (c :: t) ↔ (c = '\\' ∧ t.head? = some 'n') ∨ HoldsEscape t := by
  rw [HoldsEscape, List.infix_cons_iff, lineEscape, List.cons_prefix_cons]
  cases t with
  | nil => simp [HoldsEscape, lineEscape]
  | cons d t =>
    rw [List.cons_prefix_cons]
    simp [HoldsEscape, lineEscape, eq_comm]

lemma decode_escape (t : Text) : Trace.decode ('\\' :: 'n' :: t) = '\n' :: Trace.decode t := by
  rw [Trace.decode]

lemma decode_cons {c : Char} {t : Text} (h : ¬ (c = '\\' ∧ t.head? = some 'n')) :
    Trace.decode (c :: t) = c :: Trace.decode t := by
  rw [Trace.decode]
  rintro rest rfl rfl
  exact h ⟨rfl, rfl⟩

lemma encode_newline (t : Text) : Trace.encode ('\n' :: t) = '\\' :: 'n' :: Trace.encode t := by
  rw [Trace.encode, if_pos rfl]

lemma encode_cons {c : Char} (h : c ≠ '\n') (t : Text) : Trace.encode (c :: t) = c :: Trace.encode t := by
  rw [Trace.encode, if_neg h]

lemma newline_notMem_encode (t : Text) : '\n' ∉ Trace.encode t := by
  induction t with
  | nil => simp [Trace.encode]
  | cons c t ih =>
    by_cases hc : c = '\n'
    · subst hc
      rw [encode_newline]
      simp [ih]
    · rw [encode_cons hc]
      simp [ih, Ne.symm hc]

lemma head?_encode_eq_n {t : Text} : (Trace.encode t).head? = some 'n' ↔ t.head? = some 'n' := by
  cases t with
  | nil => rfl
  | cons c t =>
    by_cases hc : c = '\n'
    · subst hc
      rw [encode_newline]
      simp
    · rw [encode_cons hc]
      rfl

lemma head?_decode_eq_n {t : Text} : (Trace.decode t).head? = some 'n' ↔ t.head? = some 'n' := by
  cases t with
  | nil => rfl
  | cons c t =>
    by_cases h : c = '\\' ∧ t.head? = some 'n'
    · obtain ⟨rfl, ht⟩ := h
      obtain ⟨rest, rfl⟩ := List.head?_eq_some_iff.mp ht
      rw [decode_escape]
      simp
    · rw [decode_cons h]
      rfl

theorem decode_encode {t : Text} (h : ¬ HoldsEscape t) : Trace.decode (Trace.encode t) = t := by
  induction t with
  | nil => rfl
  | cons c t ih =>
    rw [holdsEscape_cons, not_or] at h
    by_cases hc : c = '\n'
    · subst hc
      rw [encode_newline, decode_escape, ih h.2]
    · rw [encode_cons hc, decode_cons, ih h.2]
      rw [head?_encode_eq_n]
      exact h.1

lemma not_escape_start {c : Char} {rest : Text} (h : ∀ r, c = '\\' → rest = 'n' :: r → False) :
    ¬ (c = '\\' ∧ rest.head? = some 'n') := by
  rintro ⟨hc, hr⟩
  obtain ⟨r, hr⟩ := List.head?_eq_some_iff.mp hr
  exact h r hc hr

theorem encode_decode {p : Text} (h : '\n' ∉ p) : Trace.encode (Trace.decode p) = p := by
  induction p using Trace.decode.induct with
  | case1 => rfl
  | case2 rest ih =>
    have hr : '\n' ∉ rest := fun hm => h (by simp [hm])
    rw [decode_escape, encode_newline, ih hr]
  | case3 c rest hne ih =>
    have hc : c ≠ '\n' := fun he => h (by simp [he])
    have hr : '\n' ∉ rest := fun hm => h (by simp [hm])
    have hn := not_escape_start hne
    rw [decode_cons hn, encode_cons hc, ih hr]

/-- Decoding leaves no escape, since neither a backslash nor a letter n comes from a line feed. -/
theorem not_holdsEscape_decode (p : Text) : ¬ HoldsEscape (Trace.decode p) := by
  induction p using Trace.decode.induct with
  | case1 => simp [Trace.decode, HoldsEscape, lineEscape]
  | case2 rest ih =>
    rw [decode_escape, holdsEscape_cons]
    rintro (⟨hc, -⟩ | h)
    · exact absurd hc (by decide)
    · exact ih h
  | case3 c rest hne ih =>
    have hn := not_escape_start hne
    rw [decode_cons hn, holdsEscape_cons, head?_decode_eq_n]
    rintro (h | h)
    · exact hn h
    · exact ih h

/-- A trace comes back from its line exactly if it holds no escape, and a line from its trace exactly if it holds no
line feed. No trace that is read from a line holds an escape. -/
theorem traceCodec_inverse_iff :
    (∀ t, Trace.decode (Trace.encode t) = t ↔ ¬ HoldsEscape t) ∧
      (∀ p, Trace.encode (Trace.decode p) = p ↔ '\n' ∉ p) ∧ ∀ p, ¬ HoldsEscape (Trace.decode p) := by
  refine ⟨fun t => ⟨fun h => ?_, decode_encode⟩, fun p => ⟨fun h => ?_, encode_decode⟩, not_holdsEscape_decode⟩
  · rw [← h]
    exact not_holdsEscape_decode (Trace.encode t)
  · rw [← h]
    exact newline_notMem_encode (Trace.decode p)

/-- Runs of backslashes: only the last one before the letter is part of the escape. -/
example : Trace.decode (Trace.encode "\\\\\n\\".toList) = "\\\\\n\\".toList ∧
    Trace.decode "\\\\n".toList = "\\\n".toList := by
  decide

end SuiteRunner.Proofs
