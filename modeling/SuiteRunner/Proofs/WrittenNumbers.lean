import SuiteRunner.Proofs.LeftFold

/-!
# Numbers as they are written

Every literal with digits of ASCII after at most one minus sign is a word of its own, and is worth the same integer in
every world unless it is too long. So two integers with an operator between them come to what the operator makes of
them.
-/

namespace SuiteRunner.Proofs
open World

section Words

variable {t : Text}

lemma not_isBlank_of_isDigit {c : Char} (h : c.isDigit = true) : isBlank c = false := by
  obtain ⟨hlow, hhigh⟩ := isDigit_bounds h
  simp only [isBlank, CharRanges.has, blankRanges, List.any_cons, List.any_nil, Bool.or_false, Bool.or_eq_false_iff,
    Bool.and_eq_false_iff, decide_eq_false_iff_not]
  omega

lemma IsDecimal.isWord (h : IsDecimal t) : IsWord t := by
  obtain ⟨digits, hne, hdigits, rfl | rfl⟩ := h
  · exact ⟨hne, fun c hc => not_isBlank_of_isDigit (hdigits c hc)⟩
  · refine ⟨List.cons_ne_nil _ _, List.forall_mem_cons.mpr ⟨by decide, fun c hc => ?_⟩⟩
    exact not_isBlank_of_isDigit (hdigits c hc)

lemma IsDecimal.words (h : IsDecimal t) : t.words = [t] :=
  words_of_no_blank h.isWord.ne_nil h.isWord.no_blank

lemma IsDecimal.isOperand (h : IsDecimal t) : IsOperand t :=
  ⟨.word t, h.words⟩

end Words

section Evaluating

variable {w : World} {agent : Agent} {depth : Nat} {t : Text}

lemma IsDecimal.value (h : IsDecimal t) :
    w.value agent (depth + 1) t =
      match readInt t with
      | .ok n => .ok (.int n)
      | .error fault => .error (.fault (unreadInteger t fault)) := by
  have hwords : t.words = (Atom.word t).words := h.words
  cases hread : readInt t with
  | ok n => rw [value_of_atom hwords, atomValue, wordValue, if_pos h.looksNumeric, hread]
  | error fault => rw [value_of_atom hwords, atomValue, wordValue, if_pos h.looksNumeric, hread]

lemma IsDecimal.value_of_read (h : IsDecimal t) {n : Int} (hread : readInt t = .ok n) :
    w.value agent (depth + 1) t = .ok (.int n) := by
  rw [h.value, hread]

lemma IsDecimal.value_eq_error_iff (h : IsDecimal t) {stop : Stop} :
    w.value agent (depth + 1) t = .error stop ↔ ∃ count, IsLongLiteral t count ∧ stop = .fault (tooLongLiteral count) := by
  rw [h.value]
  rcases h.read with ⟨n, hread⟩ | ⟨count, hlong⟩
  · have hnot (count : Nat) : ¬ IsLongLiteral t count := fun hlong => by
      rw [(isLongLiteral_iff.mp hlong).2] at hread
      cases hread
    simp [hread, hnot]
  · have hread := (isLongLiteral_iff.mp hlong).2
    have honly (other : Nat) : IsLongLiteral t other ↔ count = other := by
      rw [isLongLiteral_iff, hread]
      simp [h.looksNumeric]
    simp [hread, honly, unreadInteger, eq_comm]

end Evaluating

/-- Two integers with an operator between them. -/
def operationText (op : Operator) (a b : Int) : Text :=
  Text.ofInt a ++ ' ' :: (op.text ++ ' ' :: Text.ofInt b)

section Operations

variable {w : World} {agent : Agent} {depth : Nat} {op : Operator} {a b : Int}

lemma isExpression_operationText (op : Operator) (a b : Int) :
    IsExpression (operationText op a b).words (Text.ofInt a) [(op, Text.ofInt b)] := by
  have ha := isDecimal_ofInt a
  have hb := isDecimal_ofInt b
  have hsign : IsWord op.text := by cases op <;> decide
  refine ⟨ha.isOperand, ?_, ?_⟩
  · simpa using hb.isOperand
  · rw [operationText, words_append_space ha.isWord.ne_nil ha.isWord.no_blank,
      words_append_space hsign.ne_nil hsign.no_blank, operationWords_cons, ha.words]
    simp [operationWords]

lemma value_operationText :
    w.value agent (depth + 1) (operationText op a b) =
      (do
        let left ← w.value agent (depth + 1) (Text.ofInt a)
        let right ← w.value agent (depth + 1) (Text.ofInt b)
        World.apply agent op left right) := by
  rw [value_eq_foldOperations (isExpression_operationText op a b), foldOperations]
  refine congrArg (_ >>= ·) (funext fun left => ?_)
  rw [List.foldlM_cons]
  exact bind_pure _

lemma value_ofInt_of_lt (h : a.natAbs < 10 ^ maxIntegerDigits) :
    w.value agent (depth + 1) (Text.ofInt a) = .ok (.int a) :=
  (isDecimal_ofInt a).value_of_read (readInt_ofInt_of_lt h)

lemma value_ofInt_of_le (h : 10 ^ maxIntegerDigits ≤ a.natAbs) :
    w.value agent (depth + 1) (Text.ofInt a) = .error (.fault (tooLongLiteral (Text.ofNat a.natAbs).length)) := by
  rw [(isDecimal_ofInt a).value, readInt_ofInt, if_pos h]
  rfl

lemma value_operationText_of_lt (ha : a.natAbs < 10 ^ maxIntegerDigits) (hb : b.natAbs < 10 ^ maxIntegerDigits) :
    w.value agent (depth + 1) (operationText op a b) = World.apply agent op (.int a) (.int b) := by
  rw [value_operationText, value_ofInt_of_lt ha, value_ofInt_of_lt hb]
  rfl

end Operations

end SuiteRunner.Proofs
