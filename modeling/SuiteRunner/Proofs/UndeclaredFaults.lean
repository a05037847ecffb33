import SuiteRunner.Proofs.RoundedQuotient
import SuiteRunner.Proofs.StoppedEvaluation

/-!
# Faults that are not declared

An evaluation reports what is turned down and what fails while it runs. The main statement tells the faults besides,
whatever the world: a word is taken for an integer and is none, an integer has too many digits to be read or to be
printed, or no floating-point number comes near a quotient of integers.
-/

namespace SuiteRunner.Proofs
open World

section Quotients

variable {a b : Int}

lemma nearestQuotient_infinite_iff (hb : b ≠ 0) :
    (∃ negative, nearestQuotient a b = .infinite negative) ↔
      Binary64.overflowStart * b.natAbs ≤ a.natAbs := by
  rw [nearestQuotient, ← Binary64.ofRatio_eq_infinite_iff (Int.natAbs_pos.mpr hb)]
  constructor
  · rintro ⟨negative, h⟩
    rwa [Binary64.eq_of_ofRatio_eq_infinite h] at h
  · exact fun h => ⟨_, h⟩

end Quotients

/-- An undeclared fault that stops the evaluation at a place. -/
inductive IsUndeclaredAt : Place → Fault → Prop
  | broken {word : Text} (broken : IsBrokenLiteral word) : IsUndeclaredAt (.word word) (badInteger word)
  | long {word : Text} {count : Nat} (long : IsLongLiteral word count) :
      IsUndeclaredAt (.word word) (tooLongLiteral count)
  | tooLarge {a b : Int} (nonzero : b ≠ 0) (large : Binary64.overflowStart * b.natAbs ≤ a.natAbs) :
      IsUndeclaredAt (.application .div (.int a) (.int b)) quotientTooLarge
  | unwritten {left : Value} (long : IsTooLong left) : IsUndeclaredAt (.gap left) tooLongInteger

section Places

variable {w : World} {agent : Agent} {place : Place} {fault : Fault}

lemma IsUndeclaredAt.not_isDeclared (h : IsUndeclaredAt place fault) : ¬ fault.IsDeclared := by
  cases h <;> rintro ⟨⟩

lemma IsUndeclaredAt.stopsAt (h : IsUndeclaredAt place fault) : StopsAt w agent place (.fault fault) := by
  cases h with
  | broken broken =>
    obtain ⟨hnumeric, hreads⟩ := isBrokenLiteral_iff.mp broken
    exact .unread hnumeric hreads
  | long long =>
    obtain ⟨hnumeric, hreads⟩ := isLongLiteral_iff.mp long
    exact .unread hnumeric hreads
  | @tooLarge a b nonzero large =>
    obtain ⟨negative, hinfinite⟩ := (nearestQuotient_infinite_iff nonzero).mpr large
    exact .application (by simp [World.apply, nonzero, quotient_of_infinite hinfinite, Except.mapError])
  | @unwritten left long =>
    have hstops : noOperation left = .fault tooLongInteger := by
      rw [noOperation, text_eq_error_iff.mpr ⟨long, rfl⟩]
    exact hstops ▸ .gap

lemma isUndeclaredAt_of_stopsAt (hfault : ¬ fault.IsDeclared) (h : StopsAt w agent place (.fault fault)) :
    IsUndeclaredAt place fault := by
  rcases h.of_not_isDeclared hfault with ⟨word, unread, rfl, hnumeric, hreads, rfl⟩ |
    ⟨a, b, negative, rfl, hb, hinfinite, rfl⟩ | ⟨left, rfl, hlong, rfl⟩
  · cases unread with
    | noLiteral => exact .broken (isBrokenLiteral_iff.mpr ⟨hnumeric, hreads⟩)
    | tooLong count => exact .long (isLongLiteral_iff.mpr ⟨hnumeric, hreads⟩)
  · exact .tooLarge hb ((nearestQuotient_infinite_iff hb).mp ⟨negative, hinfinite⟩)
  · exact .unwritten hlong

end Places

/-- Whatever the world and however deeply reporters are nested: an evaluation ends with a fault that is not declared
exactly if it comes to a literal that is none or is too long, to a quotient that is not less than halfway from the
greatest floating-point number to the power of two above it, or to an integer with too many digits that is to be
printed, in a message or as the answer. -/
theorem evaluate_undeclared_iff (w : World) (agent : Agent) (depth : Nat) (t : Text) (fault : Fault) :
    evaluate depth t agent w = .error (.fault fault) ∧ ¬ fault.IsDeclared ↔
      (∃ names place, Reaches w agent depth t names place ∧ IsUndeclaredAt place fault) ∨
        ∃ v, w.value agent depth t = .ok v ∧ IsTooLong v ∧ fault = tooLongInteger := by
  rw [evaluate_eq_error_iff, value_eq_error_iff_reaches]
  constructor
  · rintro ⟨⟨names, place, origin, hreaches, hstops, horigin⟩ | ⟨v, hvalue, hlong, hstop⟩, hfault⟩
    · rw [(through_eq_fault_iff hfault).mp horigin.symm] at hstops
      exact .inl ⟨names, place, hreaches, isUndeclaredAt_of_stopsAt hfault hstops⟩
    · exact .inr ⟨v, hvalue, hlong, Stop.fault.inj hstop⟩
  · rintro (⟨names, place, hreaches, hplace⟩ | ⟨v, hvalue, hlong, rfl⟩)
    · have hthrough : (Stop.fault fault).through names = .fault fault :=
        (through_eq_fault_iff hplace.not_isDeclared).mpr rfl
      exact ⟨.inl ⟨names, place, _, hreaches, hplace.stopsAt, hthrough.symm⟩, hplace.not_isDeclared⟩
    · exact ⟨.inr ⟨v, hvalue, hlong, rfl⟩, by rintro ⟨⟩⟩

/-- A superscript is a digit without a place value, a number has one minus sign at most, and there are quotients beyond
the floating-point numbers. -/
theorem evaluate_undeclared :
    evaluate depthLimit "²".toList .observer {} = .error (.fault (badInteger "²".toList)) ∧
      evaluate depthLimit "--5".toList .observer {} = .error (.fault (badInteger "--5".toList)) ∧
      evaluate depthLimit ('1' :: List.replicate 309 '0' ++ " / 1".toList) .observer {} =
        .error (.fault quotientTooLarge) ∧
      ¬ (badInteger "²".toList).IsDeclared ∧ ¬ (badInteger "--5".toList).IsDeclared ∧
      ¬ quotientTooLarge.IsDeclared := by
  refine ⟨by decide +kernel, by decide +kernel, by decide +kernel, ?_, ?_, ?_⟩ <;> rintro ⟨⟩

end SuiteRunner.Proofs
