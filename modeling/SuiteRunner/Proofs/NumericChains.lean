import SuiteRunner.Proofs.StackTraces
import SuiteRunner.Proofs.WrittenNumbers

/-!
# Chains of integers

The operators take integers and make integers, but for the quotients that are not whole. The main statement is that a
chain of integer literals comes to an operand that is no number for the next operator exactly where such a quotient is
not the last. What else stops a chain is a division by zero, a quotient that is too large, or an integer with too many
digits.
-/

namespace SuiteRunner.Proofs
open World

/-- The text is a chain of integer literals with operators between them. -/
structure IsIntegerChain (t first : Text) (operations : List Operation) : Prop where
  literal : IsDecimal first
  literals : ∀ operation ∈ operations, IsDecimal operation.2
  words_eq : t.words = first :: operations.flatMap fun operation => [operation.1.text, operation.2]

/-- The floating-point number nearest to the quotient is no integer. -/
structure LeavesFraction (a b : Int) : Prop where
  nonzero : b ≠ 0
  finite : (nearestQuotient a b).IsFinite
  fraction : (nearestQuotient a b).toInt? = none

/-- An operand of the operator is no number for it. -/
def noNumbers (agent : Agent) (op : Operator) : Stop :=
  failed (op.text ++ " expected numbers.".toList) agent op.text

/-- The operations before the operator end with a division of integers that leaves a fraction. The operand after it is
read before the operator is applied. -/
inductive FollowsFraction (w : World) (agent : Agent) (depth : Nat) (first : Text) (operations : List Operation)
    (op : Operator) : Prop
  | intro {before after : List Operation} {divisor operand : Text} {a b c : Int}
      (operations_eq : operations = before ++ (.div, divisor) :: (op, operand) :: after)
      (upTo : foldOperations w agent depth first before = .ok (.int a)) (divisor : readInt divisor = .ok b)
      (leaves : LeavesFraction a b) (operand : readInt operand = .ok c)

section Faults

variable {agent : Agent}

lemma noNumbers_injective : Function.Injective (noNumbers agent) := by
  intro op other h
  simp only [noNumbers, failed, Stop.fault.injEq, Fault.execution.injEq, List.append_cancel_right_eq] at h
  have htext : op.text = other.text := h.1
  have hread := op.ofText?_text
  rw [htext, other.ofText?_text] at hread
  exact (Option.some.inj hread).symm

lemma noNumbers_ne_byZero (op : Operator) :
    noNumbers agent op ≠ failed "Division by zero.".toList agent Operator.div.text := by
  intro h
  simp only [noNumbers, failed, Stop.fault.injEq, Fault.execution.injEq] at h
  cases op <;> exact absurd h.1 (by decide)

end Faults

section Operators

variable {agent : Agent} {op : Operator} {left v : Value} {b : Int}

lemma apply_int_eq_ok (h : World.apply agent op left (.int b) = .ok v) :
    ∃ a, left = .int a ∧ ((∃ n, v = .int n) ∨
      op = .div ∧ LeavesFraction a b ∧ v = .float (nearestQuotient a b)) := by
  have happlies := applies agent op left (.int b)
  rw [h] at happlies
  generalize hright : Value.int b = right at happlies
  cases happlies with
  | quotient nonzero finite fraction =>
    cases hright
    exact ⟨_, rfl, .inr ⟨rfl, ⟨nonzero, finite, fraction⟩, rfl⟩⟩
  | _ => exact ⟨_, rfl, .inl ⟨_, rfl⟩⟩

lemma apply_of_leavesFraction {a : Int} (h : LeavesFraction a b) :
    World.apply agent .div (.int a) (.int b) = .ok (.float (nearestQuotient a b)) := by
  simp [World.apply, h.nonzero, quotient_of_fraction h.finite h.fraction, Except.mapError]

lemma apply_int_eq_error {stop : Stop} (h : World.apply agent op left (.int b) = .error stop) :
    (stop = noNumbers agent op ∧ ∀ a, left ≠ .int a) ∨
      stop = failed "Division by zero.".toList agent Operator.div.text ∨ stop = .fault quotientTooLarge := by
  have happlies := applies agent op left (.int b)
  rw [h] at happlies
  generalize hright : Value.int b = right at happlies
  cases happlies with
  | tooLarge => exact .inr (.inr rfl)
  | byZero => exact .inr (.inl rfl)
  | noNumbers hnumbers => exact .inl ⟨rfl, fun a ha => hnumbers a b ha hright.symm⟩

end Operators

section Chains

variable {w : World} {agent : Agent} {depth : Nat} {t first : Text} {operations before : List Operation} {v : Value}

lemma IsIntegerChain.isExpression (h : IsIntegerChain t first operations) : IsExpression t.words first operations := by
  refine ⟨h.literal.isOperand, fun operation hmem => (h.literals operation hmem).isOperand, ?_⟩
  have hwords : operationWords operations =
      operations.flatMap fun operation => [operation.1.text, operation.2] :=
    List.flatMap_congr fun operation hmem => by rw [(h.literals operation hmem).words]
  rw [h.words_eq, hwords, h.literal.words]
  rfl

lemma foldOperations_concat (operation : Operation) :
    foldOperations w agent depth first (before ++ [operation]) =
      foldOperations w agent depth first before >>= fun left => applyOperation w agent depth left operation := by
  simp only [foldOperations, List.foldlM_append, List.foldlM_cons, List.foldlM_nil, bind_pure, bind_assoc]

lemma applyOperation_decimal {left : Value} {op : Operator} {operand : Text} {b : Int} (hoperand : IsDecimal operand)
    (hread : readInt operand = .ok b) :
    applyOperation w agent (depth + 1) left (op, operand) = World.apply agent op left (.int b) := by
  rw [applyOperation, hoperand.value_of_read hread]
  rfl

lemma IsDecimal.of_value {operand : Text} {right : Value} (hoperand : IsDecimal operand)
    (h : w.value agent (depth + 1) operand = .ok right) : ∃ n, readInt operand = .ok n ∧ right = .int n := by
  cases hread : readInt operand with
  | ok n =>
    rw [hoperand.value_of_read hread] at h
    exact ⟨n, rfl, (Except.ok.inj h).symm⟩
  | error fault => simp [hoperand.value, hread] at h

lemma foldOperations_integers (hfirst : IsDecimal first) (hoperands : ∀ operation ∈ before, IsDecimal operation.2)
    (h : foldOperations w agent (depth + 1) first before = .ok v) :
    (∃ n, v = .int n) ∨ ∃ earlier divisor a b, before = earlier ++ [(.div, divisor)] ∧
      foldOperations w agent (depth + 1) first earlier = .ok (.int a) ∧ readInt divisor = .ok b ∧
        LeavesFraction a b := by
  rcases List.eq_nil_or_concat before with rfl | ⟨earlier, ⟨op, divisor⟩, rfl⟩
  · change w.value agent (depth + 1) first >>= pure = .ok v at h
    rw [bind_pure] at h
    obtain ⟨n, -, rfl⟩ := hfirst.of_value h
    exact .inl ⟨n, rfl⟩
  · rw [List.concat_eq_append] at h hoperands ⊢
    rw [foldOperations_concat] at h
    cases hleft : foldOperations w agent (depth + 1) first earlier with
    | error stop =>
      rw [hleft] at h
      cases h
    | ok left =>
      have hdivisor : IsDecimal divisor := hoperands (op, divisor) (by simp)
      rw [hleft] at h
      change applyOperation w agent (depth + 1) left (op, divisor) = .ok v at h
      obtain ⟨right, hright, happly⟩ := applyOperation_eq_ok_iff.mp h
      obtain ⟨b, hb, rfl⟩ := hdivisor.of_value hright
      obtain ⟨a, rfl, hint | ⟨rfl, hleaves, -⟩⟩ := apply_int_eq_ok happly
      · exact .inl hint
      · exact .inr ⟨earlier, divisor, a, b, rfl, hleft, hb, hleaves⟩

/-- A literal of the chain has too many digits, so many of them. -/
def HasLongLiteral (first : Text) (operations : List Operation) (count : Nat) : Prop :=
  ∃ literal ∈ first :: operations.map Prod.snd, IsLongLiteral literal count

lemma IsIntegerChain.firstFault (h : IsIntegerChain t first operations) {stop : Stop}
    (hfault : IsFirstFault w agent (depth + 1) first operations stop) :
    (∃ op, stop = noNumbers agent op ∧ FollowsFraction w agent (depth + 1) first operations op) ∨
      stop = failed "Division by zero.".toList agent Operator.div.text ∨ stop = .fault quotientTooLarge ∨
        ∃ count, HasLongLiteral first operations count ∧ stop = .fault (tooLongLiteral count) := by
  cases hfault with
  | first fails =>
    obtain ⟨count, hlong, rfl⟩ := h.literal.value_eq_error_iff.mp fails
    exact .inr (.inr (.inr ⟨count, ⟨first, List.mem_cons_self, hlong⟩, rfl⟩))
  | @operand before after op operand left operations_eq upTo fails =>
    have hoperand : IsDecimal operand := h.literals (op, operand) (by simp [operations_eq])
    obtain ⟨count, hlong, rfl⟩ := hoperand.value_eq_error_iff.mp fails
    exact .inr (.inr (.inr ⟨count, ⟨operand, by simp [operations_eq], hlong⟩, rfl⟩))
  | @operator before after op operand left right operations_eq upTo value fails =>
    have hoperand : IsDecimal operand := h.literals (op, operand) (by simp [operations_eq])
    obtain ⟨n, hn, rfl⟩ := hoperand.of_value value
    rcases apply_int_eq_error fails with ⟨rfl, hleft⟩ | hzero | hlarge
    · left
      have hbefore : ∀ operation ∈ before, IsDecimal operation.2 := fun operation hmem =>
        h.literals operation (by simp [operations_eq, hmem])
      rcases foldOperations_integers h.literal hbefore upTo with
        ⟨m, hm⟩ | ⟨earlier, divisor, a, b, rfl, ha, hb, hleaves⟩
      · exact absurd hm (hleft m)
      · rw [List.append_assoc] at operations_eq
        exact ⟨op, rfl, .intro operations_eq ha hb hleaves hn⟩
    · exact .inr (.inl hzero)
    · exact .inr (.inr (.inl hlarge))

lemma IsIntegerChain.noNumbers_of_followsFraction (h : IsIntegerChain t first operations) {op : Operator}
    (hfollows : FollowsFraction w agent (depth + 1) first operations op) :
    IsFirstFault w agent (depth + 1) first operations (noNumbers agent op) := by
  cases hfollows with
  | @intro before after divisor operand a b c operations_eq upTo hb leaves hc =>
    have hdivisor : IsDecimal divisor := h.literals (.div, divisor) (by simp [operations_eq])
    have hoperand : IsDecimal operand := h.literals (op, operand) (by simp [operations_eq])
    have hquotient : foldOperations w agent (depth + 1) first (before ++ [(.div, divisor)]) =
        .ok (.float (nearestQuotient a b)) := by
      rw [foldOperations_concat, upTo]
      exact (applyOperation_decimal hdivisor hb).trans (apply_of_leavesFraction leaves)
    have hstops : World.apply agent op (.float (nearestQuotient a b)) (.int c) = .error (noNumbers agent op) :=
      apply_of_noNumbers fun _ _ hfloat => by cases hfloat
    rw [← List.singleton_append, ← List.append_assoc] at operations_eq
    exact .operator operations_eq hquotient (hoperand.value_of_read hc) hstops

lemma IsIntegerChain.value_eq_error_iff (h : IsIntegerChain t first operations) {stop : Stop} :
    w.value agent depth t = .error stop ↔ IsFirstFault w agent depth first operations stop := by
  rw [value_eq_foldOperations h.isExpression, foldOperations_eq_error_iff]

end Chains

/-- Besides an operator without numbers, a chain of integers is stopped by nothing but a division by zero, a quotient
that is too large, a literal that is too long to be read, or a value that is too long to be printed. -/
theorem evaluate_integerChain_stops (w : World) (agent : Agent) (depth : Nat) {t first : Text}
    {operations : List Operation} (h : IsIntegerChain t first operations) {stop : Stop}
    (hstop : evaluate (depth + 1) t agent w = .error stop) :
    (∃ op, stop = noNumbers agent op ∧ FollowsFraction w agent (depth + 1) first operations op) ∨
      stop = failed "Division by zero.".toList agent Operator.div.text ∨ stop = .fault quotientTooLarge ∨
        (∃ count, HasLongLiteral first operations count ∧ stop = .fault (tooLongLiteral count)) ∨
          ∃ v, w.value agent (depth + 1) t = .ok v ∧ IsTooLong v ∧ stop = .fault tooLongInteger := by
  rcases evaluate_eq_error_iff.mp hstop with hvalue | hlong
  · rcases h.firstFault (h.value_eq_error_iff.mp hvalue) with hnumbers | hzero | hlarge | hread
    · exact .inl hnumbers
    · exact .inr (.inl hzero)
    · exact .inr (.inr (.inl hlarge))
    · exact .inr (.inr (.inr (.inl hread)))
  · exact .inr (.inr (.inr (.inr hlong)))

/-- A chain of integers is stopped at an operator without numbers exactly if the operation before it is a division that
leaves a fraction. -/
theorem evaluate_noNumbers_iff (w : World) (agent : Agent) (depth : Nat) {t first : Text} {operations : List Operation}
    (h : IsIntegerChain t first operations) (op : Operator) :
    evaluate (depth + 1) t agent w = .error (noNumbers agent op) ↔
      FollowsFraction w agent (depth + 1) first operations op := by
  constructor
  · intro hstop
    rcases evaluate_integerChain_stops w agent depth h hstop with
      ⟨other, hsame, hfollows⟩ | hzero | hlarge | ⟨count, -, hread⟩ | ⟨v, -, -, hlong⟩
    · exact noNumbers_injective hsame ▸ hfollows
    · exact absurd hzero (noNumbers_ne_byZero op)
    · cases hlarge
    · cases hread
    · cases hlong
  · exact fun hfollows =>
      evaluate_eq_error_iff.mpr (.inl (h.value_eq_error_iff.mpr (h.noNumbers_of_followsFraction hfollows)))

lemma isIntegerChain_of_digits {t first : Text} {operations : List Operation}
    (hdigits : ((first :: operations.map Prod.snd).all fun literal =>
      ! literal.isEmpty && literal.all Char.isDigit) = true)
    (hwords : t.words = first :: operations.flatMap fun operation => [operation.1.text, operation.2]) :
    IsIntegerChain t first operations := by
  have hdecimal (literal : Text) (hmem : literal ∈ first :: operations.map Prod.snd) : IsDecimal literal := by
    have hliteral : literal ≠ [] ∧ ∀ c ∈ literal, c.isDigit = true := by
      simpa using List.all_eq_true.mp hdigits literal hmem
    exact ⟨literal, hliteral.1, hliteral.2, .inl rfl⟩
  refine ⟨hdecimal first List.mem_cons_self, fun operation hmem => ?_, hwords⟩
  exact hdecimal _ (List.mem_cons_of_mem first (List.mem_map_of_mem hmem))

theorem evaluate_noNumbers_after_quotient :
    let operations : List Operation := [(.sub, "4".toList), (.div, "4".toList), (.mul, "2".toList)]
    IsIntegerChain "10 -  4 / 4\t* 2".toList "10".toList operations ∧
      FollowsFraction {} .patch 1 "10".toList operations .mul ∧
      evaluate 1 "10 -  4 / 4\t* 2".toList .patch {} = .error (noNumbers .patch .mul) := by
  intro operations
  have hchain : IsIntegerChain "10 -  4 / 4\t* 2".toList "10".toList operations :=
    isIntegerChain_of_digits (by decide) (by decide)
  have hquotient : nearestQuotient 6 4 = .finite false (3 * 2 ^ 51) (-52) := by decide +kernel
  have hleaves : LeavesFraction 6 4 := by
    refine ⟨by decide, ?_, ?_⟩
    · rw [hquotient]
      exact ⟨by decide, by decide, by decide⟩
    · rw [hquotient]
      decide
  have hoperations : operations = [(.sub, "4".toList)] ++ (.div, "4".toList) :: (.mul, "2".toList) :: [] := rfl
  have hfollows : FollowsFraction {} .patch 1 "10".toList operations .mul :=
    .intro hoperations (by decide) (by decide) hleaves (c := 2) (by decide)
  exact ⟨hchain, hfollows, (evaluate_noNumbers_iff {} .patch 0 hchain .mul).mpr hfollows⟩

/-- A half is no number for the operator that comes after it. -/
theorem evaluate_noNumbers_half :
    IsIntegerChain "1 / 2 + 1".toList "1".toList [(.div, "2".toList), (.add, "1".toList)] ∧
      evaluate depthLimit "1 / 2 + 1".toList .observer {} =
        .error (failed "+ expected numbers.".toList .observer "+".toList) :=
  ⟨isIntegerChain_of_digits (by decide) (by decide), by decide +kernel⟩

end SuiteRunner.Proofs
