import Mathlib.Data.Rat.Cast.Order
import Mathlib.Tactic.FieldSimp
import Mathlib.Tactic.Positivity
import Mathlib.Tactic.Ring
import SuiteRunner.Number.Binary64

/-!
# Floating-point numbers as rational numbers

A finite number is a rational number, and it reads as an integer exactly if that rational number is one. The number
nearest to a quotient is finite with a mantissa and an exponent in their ranges, unless it is infinite.
-/

namespace SuiteRunner.Binary64

/-- The rational number that a finite number is. -/
def toRat? : Binary64 → Option ℚ
  | finite negative mantissa exponent => some ((if negative then -1 else 1) * (mantissa * 2 ^ exponent))
  | _ => none

/-- The number is finite, and its mantissa and its exponent fit into the 64 bits. -/
def IsFinite : Binary64 → Prop
  | finite _ mantissa exponent => mantissa < 2 ^ 53 ∧ minExponent ≤ exponent ∧ exponent ≤ maxExponent
  | _ => False

lemma powerOfTwo_eq (exponent : Int) :
    0 < (powerOfTwo exponent).2 ∧ ((powerOfTwo exponent).1 : ℚ) / (powerOfTwo exponent).2 = 2 ^ exponent := by
  obtain ⟨n, rfl | rfl⟩ := exponent.eq_nat_or_neg
  · simp [powerOfTwo]
  · simp [powerOfTwo]

/-- A number reads as an integer exactly if it is one. -/
theorem toInt?_eq_some_iff {x : Binary64} {n : Int} : x.toInt? = some n ↔ x.toRat? = some (n : ℚ) := by
  cases x with
  | finite negative mantissa exponent =>
    obtain ⟨hpos, hpower⟩ := powerOfTwo_eq exponent
    rcases hpair : powerOfTwo exponent with ⟨up, down⟩
    rw [hpair] at hpos hpower
    simp only at hpos hpower
    have hdown : (down : ℚ) ≠ 0 := by exact_mod_cast hpos.ne'
    have hvalue : (mantissa : ℚ) * 2 ^ exponent = ((mantissa * up : Nat) : ℚ) / down := by
      rw [← hpower]
      push_cast
      ring
    simp only [toInt?, toRat?, hpair, hvalue, Option.some.injEq]
    by_cases hdvd : down ∣ mantissa * up
    · obtain ⟨k, hk⟩ := hdvd
      have hquotient : ((mantissa * up : Nat) : ℚ) / down = k := by
        rw [hk]
        push_cast
        field_simp
      rw [hquotient, hk, Nat.mul_mod_right, Nat.mul_div_cancel_left k hpos]
      cases negative <;> simp <;> norm_cast
    · have hmod : mantissa * up % down ≠ 0 := fun h => hdvd (Nat.dvd_of_mod_eq_zero h)
      rw [if_neg hmod]
      simp only [reduceCtorEq, false_iff]
      intro h
      apply hdvd
      -- without the sign and the denominator the equation is one of natural numbers
      have hscaled : ((mantissa * up : Nat) : ℚ) = down * |(n : ℚ)| := by
        rw [← h]
        have hnonneg : 0 ≤ ((mantissa * up : Nat) : ℚ) / down := by positivity
        cases negative <;> simp only [Bool.false_eq_true, if_true, if_false, neg_mul, one_mul, abs_neg,
          abs_of_nonneg hnonneg] <;> field_simp
      have hnat : mantissa * up = down * n.natAbs := by
        rw [← Int.cast_abs, Int.abs_eq_natAbs] at hscaled
        exact_mod_cast hscaled
      exact ⟨n.natAbs, hnat⟩
  | infinite negative => simp [toInt?, toRat?]
  | nan => simp [toInt?, toRat?]

lemma minExponent_le_exponentOf (num den : Nat) : minExponent ≤ exponentOf num den :=
  le_max_left _ _

/-- The number nearest to a quotient is infinite or in range. -/
theorem ofRatio_isFinite (negative : Bool) (num den : Nat) :
    ofRatio negative num den = .infinite negative ∨ (ofRatio negative num den).IsFinite := by
  unfold ofRatio
  split
  · right
    simp [IsFinite, minExponent, maxExponent]
  · have hleast := minExponent_le_exponentOf num den
    dsimp only
    split
    · split
      · exact .inl rfl
      · right
        exact ⟨‹_›, hleast, by omega⟩
    · split
      · exact .inl rfl
      · right
        exact ⟨by decide, by omega, by omega⟩

end SuiteRunner.Binary64
