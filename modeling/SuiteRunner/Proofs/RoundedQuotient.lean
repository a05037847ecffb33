import Mathlib.Tactic.Linarith
import SuiteRunner.Proofs.BinaryNumber

/-!
# Quotients beyond the floating-point numbers

The exponent that is chosen for a quotient gives it a mantissa of 53 bits, unless it is the least one. The main
statement is that the number nearest to a quotient is infinite exactly if the quotient is not less than halfway between
the greatest finite number and the power of two above it.
-/

namespace SuiteRunner.Binary64

/-- Halfway between the greatest finite number and the power of two above it, which is the even neighbour. -/
def overflowStart : Nat := (2 ^ 54 - 1) * 2 ^ 970

section Rounding

variable {num den : Nat}

lemma powerOfTwo_natCast (n : Nat) : powerOfTwo n = (2 ^ n, 1) := by
  simp [powerOfTwo]

lemma lt_powerOfTwo_iff (hden : 0 < den) (exponent : Int) :
    num * (powerOfTwo exponent).2 < den * (powerOfTwo exponent).1 ↔ (num : ℚ) / den < 2 ^ exponent := by
  obtain ⟨hpos, hpower⟩ := powerOfTwo_eq exponent
  have hden' : (0 : ℚ) < den := by exact_mod_cast hden
  have hpos' : (0 : ℚ) < (powerOfTwo exponent).2 := by exact_mod_cast hpos
  rw [← hpower, div_lt_div_iff₀ hden' hpos', mul_comm ((powerOfTwo exponent).1 : ℚ)]
  exact_mod_cast Iff.rfl

lemma quotient_log2_bounds (hnum : 0 < num) (hden : 0 < den) :
    (2 : ℚ) ^ ((num.log2 : Int) - den.log2 - 1) < num / den ∧
      (num : ℚ) / den < 2 ^ ((num.log2 : Int) - den.log2 + 1) := by
  have hden' : (0 : ℚ) < den := by exact_mod_cast hden
  have hnumLow : (2 : ℚ) ^ num.log2 ≤ num := by exact_mod_cast Nat.log2_self_le hnum.ne'
  have hnumHigh : (num : ℚ) < 2 ^ (num.log2 + 1) := by exact_mod_cast Nat.lt_log2_self
  have hdenLow : (2 : ℚ) ^ den.log2 ≤ den := by exact_mod_cast Nat.log2_self_le hden.ne'
  have hdenHigh : (den : ℚ) < 2 ^ (den.log2 + 1) := by exact_mod_cast Nat.lt_log2_self
  have hlow : (2 : ℚ) ^ ((num.log2 : Int) - den.log2 - 1) = 2 ^ num.log2 / 2 ^ (den.log2 + 1) := by
    rw [sub_sub, zpow_sub₀ two_ne_zero]
    norm_cast
  have hhigh : (2 : ℚ) ^ ((num.log2 : Int) - den.log2 + 1) = 2 ^ (num.log2 + 1) / 2 ^ den.log2 := by
    rw [sub_add_eq_add_sub, zpow_sub₀ two_ne_zero]
    norm_cast
  rw [hlow, hhigh]
  constructor
  · exact div_lt_div₀' hnumLow hdenHigh (by exact_mod_cast hnum) hden'
  · exact div_lt_div₀ hnumHigh hdenLow (by positivity) (by positivity)

lemma exponentOf_bounds (hnum : 0 < num) (hden : 0 < den) :
    (num : ℚ) / den < 2 ^ (exponentOf num den + 53) ∧
      (minExponent < exponentOf num den → (2 : ℚ) ^ (exponentOf num den + 52) ≤ num / den) := by
  obtain ⟨hlow, hhigh⟩ := quotient_log2_bounds hnum hden
  have htwo : (1 : ℚ) ≤ 2 := by norm_num
  obtain ⟨guess, hguess⟩ : ∃ guess : Int, guess = (num.log2 : Int) - den.log2 - 52 := ⟨_, rfl⟩
  have hexponent : exponentOf num den =
      max minExponent (if (num : ℚ) / den < 2 ^ (guess + 52) then guess - 1 else guess) := by
    simp only [exponentOf, ← hguess, lt_powerOfTwo_iff hden]
  have hbounds : ∃ exponent, exponentOf num den = max minExponent exponent ∧
      (2 : ℚ) ^ (exponent + 52) ≤ num / den ∧ (num : ℚ) / den < 2 ^ (exponent + 53) := by
    refine ⟨_, hexponent, ?_⟩
    split
    case isTrue hless =>
      constructor
      · rw [show guess - 1 + 52 = (num.log2 : Int) - den.log2 - 1 by omega]
        exact hlow.le
      · rwa [show guess - 1 + 53 = guess + 52 by omega]
    case isFalse hless =>
      constructor
      · exact not_lt.mp hless
      · rwa [show guess + 53 = (num.log2 : Int) - den.log2 + 1 by omega]
  obtain ⟨exponent, heq, hfloor, hceiling⟩ := hbounds
  constructor
  · apply hceiling.trans_le
    apply zpow_le_zpow_right₀ htwo
    omega
  · intro hmin
    rwa [show exponentOf num den = exponent by omega]

lemma le_roundHalfEven_iff {m : Nat} (hden : 0 < den) (hm : 0 < m) (heven : m % 2 = 0) :
    m ≤ roundHalfEven num den ↔ (2 * m - 1) * den ≤ 2 * num := by
  have hsplit : den * (num / den) + num % den = num := Nat.div_add_mod num den
  have hless : num % den < den := Nat.mod_lt num hden
  obtain ⟨k, hk⟩ : ∃ k, num / den = k := ⟨_, rfl⟩
  obtain ⟨r, hr⟩ : ∃ r, num % den = r := ⟨_, rfl⟩
  obtain ⟨m, rfl⟩ : ∃ n, m = n + 1 := ⟨m - 1, by omega⟩
  rw [hk, hr] at hsplit
  rw [hr] at hless
  have hdouble : (2 * (m + 1) - 1) * den = 2 * (den * m) + den := by
    rw [show 2 * (m + 1) - 1 = 2 * m + 1 by omega]
    ring
  rw [hdouble, roundHalfEven, hk, hr]
  rcases Nat.lt_trichotomy k m with hkm | rfl | hkm
  · have hle : den * k + den ≤ den * m := by
      rw [← Nat.mul_succ]
      exact Nat.mul_le_mul_left den hkm
    have hright : ¬ 2 * (den * m) + den ≤ 2 * num := by omega
    simp only [hright, iff_false]
    split_ifs <;> omega
  · split_ifs <;> omega
  · have hle : den * m + den ≤ den * k := by
      rw [← Nat.mul_succ]
      exact Nat.mul_le_mul_left den hkm
    have hright : 2 * (den * m) + den ≤ 2 * num := by omega
    simp only [hright, iff_true]
    split_ifs <;> omega

end Rounding

section Overflow

variable {negative : Bool} {num den : Nat}

lemma overflowStart_pos : 0 < overflowStart := by
  unfold overflowStart
  positivity

lemma overflowStart_bounds :
    (2 : ℚ) ^ (maxExponent + 52) < overflowStart ∧ (overflowStart : ℚ) < 2 ^ (maxExponent + 53) := by
  have hlow : (2 : ℚ) ^ (maxExponent + 52) = 2 ^ 53 * 2 ^ 970 := by
    rw [show maxExponent + 52 = ((53 + 970 : Nat) : Int) from rfl, zpow_natCast, pow_add]
  have hhigh : (2 : ℚ) ^ (maxExponent + 53) = 2 ^ 54 * 2 ^ 970 := by
    rw [show maxExponent + 53 = ((54 + 970 : Nat) : Int) from rfl, zpow_natCast, pow_add]
  have hcast : (overflowStart : ℚ) = (2 ^ 54 - 1) * 2 ^ 970 := by
    rw [overflowStart, Nat.cast_mul, Nat.cast_pow, Nat.cast_sub Nat.one_le_two_pow, Nat.cast_pow]
    rfl
  have hpos : (0 : ℚ) < 2 ^ 970 := pow_pos two_pos 970
  rw [hlow, hhigh, hcast]
  constructor
  · exact mul_lt_mul_of_pos_right (by norm_num) hpos
  · exact mul_lt_mul_of_pos_right (by norm_num) hpos

lemma eq_of_ofRatio_eq_infinite {negative' : Bool} (h : ofRatio negative num den = .infinite negative') :
    negative' = negative := by
  unfold ofRatio at h
  split at h
  · cases h
  · dsimp only at h
    split_ifs at h <;> cases h <;> rfl

lemma ofRatio_eq_infinite_iff_mantissa (hnum : 0 < num) :
    ofRatio negative num den = .infinite negative ↔
      maxExponent < exponentOf num den ∨ exponentOf num den = maxExponent ∧
        2 ^ 53 ≤ roundHalfEven (num * (powerOfTwo (exponentOf num den)).2)
          (den * (powerOfTwo (exponentOf num den)).1) := by
  rw [ofRatio, if_neg hnum.ne']
  dsimp only
  change (if _ < 2 ^ 53 then _ else _) = _ ↔ _
  split_ifs <;> simp <;> omega

/-- A quotient is rounded to infinity from halfway above the greatest finite number on. -/
theorem ofRatio_eq_infinite_iff (hden : 0 < den) :
    ofRatio negative num den = .infinite negative ↔ overflowStart * den ≤ num := by
  have hden' : (0 : ℚ) < den := by exact_mod_cast hden
  have htwo : (1 : ℚ) ≤ 2 := by norm_num
  have hthreshold : overflowStart * den ≤ num ↔ (overflowStart : ℚ) ≤ num / den := by
    rw [le_div_iff₀ hden']
    exact_mod_cast Iff.rfl
  obtain ⟨hlow, hhigh⟩ := overflowStart_bounds
  rcases Nat.eq_zero_or_pos num with rfl | hnum
  · have hpos : 0 < overflowStart * den := Nat.mul_pos overflowStart_pos hden
    simp only [ofRatio, if_true, reduceCtorEq, false_iff]
    omega
  · obtain ⟨hceiling, hfloor⟩ := exponentOf_bounds hnum hden
    rw [ofRatio_eq_infinite_iff_mantissa hnum]
    rcases lt_trichotomy (exponentOf num den) maxExponent with hless | heq | hgreater
    · have hsmall : (num : ℚ) / den < overflowStart := by
        apply (hceiling.trans_le _).trans hlow
        apply zpow_le_zpow_right₀ htwo
        omega
      rw [hthreshold]
      simp only [not_le.mpr hsmall, iff_false]
      omega
    · obtain ⟨up, hup, htwice⟩ : ∃ up, powerOfTwo maxExponent = (up, 1) ∧ up = 2 ^ 970 * 2 :=
        ⟨_, powerOfTwo_natCast (970 + 1), pow_succ 2 970⟩
      have hpos : 0 < den * up := by
        rw [htwice]
        positivity
      have hhalf : (2 * 2 ^ 53 - 1) * (den * up) = 2 * (overflowStart * den) := by
        rw [overflowStart, htwice]
        generalize 2 ^ 970 = scale
        ring
      rw [heq, hup, le_roundHalfEven_iff (m := 2 ^ 53) hpos (by norm_num) (by norm_num), hhalf]
      simp only [lt_self_iff_false, false_or, true_and, mul_one, Nat.mul_le_mul_left_iff two_pos]
    · have hlarge : (overflowStart : ℚ) ≤ num / den := by
        apply hhigh.le.trans (le_trans _ (hfloor (lt_trans (by decide) hgreater)))
        apply zpow_le_zpow_right₀ htwo
        omega
      rw [hthreshold]
      simp only [hlarge, hgreater, true_or]

end Overflow

end SuiteRunner.Binary64
