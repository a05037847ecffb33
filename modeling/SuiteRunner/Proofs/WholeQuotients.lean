import SuiteRunner.Proofs.UndeclaredFaults
import SuiteRunner.Proofs.WrittenNumbers

/-!
# Quotients that are whole

A quotient is taken as the floating-point number nearest to it. If it is whole then so is this number, be it another
one: the integers that are floating-point numbers are those of 53 bits, with zeros after them up to the greatest
exponent. The main statement is that dividing by a divisor gives the exact quotient for these and no others, and else
the nearest of them, as long as there is one.
-/

namespace SuiteRunner.Binary64

/-- The integer has 53 bits at most, and after them zeros up to the greatest exponent. -/
def IsExact (n : Int) : Prop :=
  ∃ mantissa exponent : Nat, mantissa < 2 ^ 53 ∧ (exponent : Int) ≤ maxExponent ∧ n.natAbs = mantissa * 2 ^ exponent

section Rounding

variable {num den : Nat}

lemma roundHalfEven_mul (hden : 0 < den) (k : Nat) : roundHalfEven (k * den) den = k := by
  simp [roundHalfEven, Nat.mul_div_cancel k hden, hden]

lemma roundHalfEven_mul_mul {c : Nat} (hc : 0 < c) : roundHalfEven (num * c) (den * c) = roundHalfEven num den := by
  have hless (a b : Nat) : a * c < b * c ↔ a < b := Nat.mul_lt_mul_right hc
  simp only [roundHalfEven, Nat.mul_div_mul_right _ _ hc, Nat.mul_mod_mul_right, ← mul_assoc, hless]

lemma roundHalfEven_cases (num den : Nat) :
    roundHalfEven num den = num / den ∧ 2 * (num % den) ≤ den ∨
      roundHalfEven num den = num / den + 1 ∧ den ≤ 2 * (num % den) := by
  simp only [roundHalfEven]
  split_ifs <;> omega

lemma roundHalfEven_le {m : Nat} (hden : 0 < den) (h : num < m * den) : roundHalfEven num den ≤ m := by
  have hquotient : num / den < m := (Nat.div_lt_iff_lt_mul hden).mpr h
  rcases roundHalfEven_cases num den with ⟨hround, -⟩ | ⟨hround, -⟩ <;> omega

lemma roundHalfEven_error (hden : 0 < den) (num : Nat) : 2 * |(num : Int) - roundHalfEven num den * den| ≤ den := by
  have hsplit : (den : Int) * (num / den : Nat) + (num % den : Nat) = num := by
    exact_mod_cast Nat.div_add_mod num den
  rcases roundHalfEven_cases num den with ⟨hround, hhalf⟩ | ⟨hround, hhalf⟩
  · have hbelow : (num : Int) - roundHalfEven num den * den = (num % den : Nat) := by
      rw [hround]
      linarith
    rw [hbelow, Nat.abs_cast]
    exact_mod_cast hhalf
  · have habove : (num : Int) - roundHalfEven num den * den = -((den : Int) - (num % den : Nat)) := by
      rw [hround, Nat.cast_succ]
      linarith
    have hless : num % den < den := Nat.mod_lt num hden
    rw [habove, abs_neg, abs_of_nonneg (by omega)]
    omega

lemma roundHalfEven_nearest (hden : 0 < den) (num m : Nat) :
    |(num : Int) - roundHalfEven num den * den| ≤ |(num : Int) - m * den| := by
  have herror := roundHalfEven_error hden num
  obtain ⟨k, hk⟩ : ∃ k, roundHalfEven num den = k := ⟨_, rfl⟩
  rw [hk] at herror ⊢
  by_cases hsame : m = k
  · rw [hsame]
  · have hapart : (1 : Int) ≤ |(m : Int) - k| := by
      have hpos : (0 : Int) < |(m : Int) - k| := abs_pos.mpr (sub_ne_zero.mpr (by exact_mod_cast hsame))
      omega
    have hspacing : (den : Int) ≤ |(m : Int) - k| * den := le_mul_of_one_le_left (by positivity) hapart
    have htriangle : |(m : Int) - k| * den ≤ |(num : Int) - k * den| + |(num : Int) - m * den| := by
      have hsum : ((m : Int) - k) * den = ((num : Int) - k * den) - (num - m * den) := by ring
      rw [← Nat.abs_cast den, ← abs_mul, Nat.abs_cast, hsum]
      exact abs_sub _ _
    linarith

lemma roundedMantissa_le (hnum : 0 < num) (hden : 0 < den) :
    roundHalfEven (num * (powerOfTwo (exponentOf num den)).2) (den * (powerOfTwo (exponentOf num den)).1) ≤ 2 ^ 53 := by
  obtain ⟨hceiling, -⟩ := exponentOf_bounds hnum hden
  obtain ⟨hdown, hpower⟩ := powerOfTwo_eq (exponentOf num den)
  have hup : 0 < (powerOfTwo (exponentOf num den)).1 := Nat.two_pow_pos _
  have hden' : (0 : ℚ) < den := by exact_mod_cast hden
  have hdown' : (0 : ℚ) < (powerOfTwo (exponentOf num den)).2 := by exact_mod_cast hdown
  apply roundHalfEven_le (Nat.mul_pos hden hup)
  rw [zpow_add₀ two_ne_zero, ← hpower, div_mul_eq_mul_div, div_lt_div_iff₀ hden' hdown'] at hceiling
  rw [mul_left_comm, mul_comm (2 ^ 53), mul_comm den]
  exact_mod_cast hceiling

lemma toRat?_ofRatio {negative : Bool} (hnum : 0 < num) (hden : 0 < den)
    (hfinite : ofRatio negative num den ≠ .infinite negative) :
    (ofRatio negative num den).toRat? = some ((if negative then -1 else 1) *
      ((roundHalfEven (num * (powerOfTwo (exponentOf num den)).2)
        (den * (powerOfTwo (exponentOf num den)).1) : ℚ) * 2 ^ exponentOf num den)) := by
  have hmantissa := roundedMantissa_le hnum hden
  rw [ofRatio, if_neg hnum.ne'] at hfinite ⊢
  dsimp only at hfinite ⊢
  generalize roundHalfEven _ _ = mantissa at hmantissa hfinite ⊢
  generalize exponentOf num den = exponent at hfinite ⊢
  change (if mantissa < 2 ^ 53 then _ else _) ≠ _ at hfinite
  change toRat? (if mantissa < 2 ^ 53 then _ else _) = _
  by_cases hless : mantissa < 2 ^ 53
  · rw [if_pos hless] at hfinite ⊢
    split at hfinite
    · exact absurd rfl hfinite
    · rw [if_neg ‹_›]
      rfl
  · rw [if_neg hless] at hfinite ⊢
    split at hfinite
    · exact absurd rfl hfinite
    · have hcarry : mantissa = 2 ^ 53 := by omega
      have hvalue : ((2 ^ 52 : Nat) : ℚ) * 2 ^ (exponent + 1) = (2 ^ 53 : Nat) * 2 ^ exponent := by
        rw [zpow_add_one₀ two_ne_zero]
        push_cast
        ring
      rw [if_neg ‹_›, hcarry, ← hvalue]
      rfl

end Rounding

section WholeQuotients

variable {k den : Nat}

lemma rounded_whole (hden : 0 < den) (k : Nat) (exponent : Int) :
    (roundHalfEven (k * den * (powerOfTwo exponent).2) (den * (powerOfTwo exponent).1) : ℚ) * 2 ^ exponent =
      (roundHalfEven k (2 ^ exponent.toNat) * 2 ^ exponent.toNat : Nat) := by
  obtain ⟨n, rfl | rfl⟩ := exponent.eq_nat_or_neg
  · rw [powerOfTwo_natCast, mul_one, mul_comm k, mul_comm den, mul_comm den, roundHalfEven_mul_mul hden,
      Int.toNat_natCast, zpow_natCast]
    push_cast
    rfl
  · have hpower : powerOfTwo (-(n : Int)) = (1, 2 ^ n) := by simp [powerOfTwo]
    have hplace : (-(n : Int)).toNat = 0 := by omega
    have hone : roundHalfEven k 1 = k := by simpa using roundHalfEven_mul Nat.one_pos k
    have hexact : roundHalfEven (k * den * 2 ^ n) (den * 1) = k * 2 ^ n := by
      rw [mul_one, mul_right_comm, roundHalfEven_mul hden]
    rw [hpower, hexact, hplace, pow_zero, hone, zpow_neg, zpow_natCast]
    push_cast
    field_simp

/-- A whole quotient is rounded at a place that is zero up to 53 bits, and takes the bits over 53 from there on. -/
theorem exists_place (negative : Bool) (hden : 0 < den) (hk : k < overflowStart) :
    ∃ place : Nat, (0 < place → 2 ^ (place + 52) ≤ k) ∧ (ofRatio negative (k * den) den).toInt? =
      some ((if negative then -1 else 1) * ((roundHalfEven k (2 ^ place) * 2 ^ place : Nat) : Int)) := by
  rcases Nat.eq_zero_or_pos k with rfl | hpos
  · refine ⟨0, fun h => absurd h (Nat.lt_irrefl 0), ?_⟩
    rw [Nat.zero_mul, ofRatio, if_pos rfl]
    cases negative <;> rfl
  have hnum : 0 < k * den := Nat.mul_pos hpos hden
  have hquotient : ((k * den : Nat) : ℚ) / den = k := by
    have hden' : (den : ℚ) ≠ 0 := by exact_mod_cast hden.ne'
    rw [Nat.cast_mul, mul_div_cancel_right₀ _ hden']
  have hfinite : ofRatio negative (k * den) den ≠ .infinite negative := by
    rw [ne_eq, ofRatio_eq_infinite_iff hden, Nat.mul_le_mul_right_iff hden]
    exact Nat.not_le.mpr hk
  have hvalue := toRat?_ofRatio hnum hden hfinite
  obtain ⟨-, hfloor⟩ := exponentOf_bounds hnum hden
  rw [hquotient] at hfloor
  rw [rounded_whole hden] at hvalue
  generalize exponentOf (k * den) den = exponent at hvalue hfloor
  refine ⟨exponent.toNat, fun hplace => ?_, toInt?_eq_some_iff.mpr ?_⟩
  · have hle := hfloor (by simp only [minExponent]; omega)
    have hcast : exponent + 52 = ((exponent.toNat + 52 : Nat) : Int) := by omega
    rw [hcast, zpow_natCast] at hle
    exact_mod_cast hle
  · rw [hvalue]
    cases negative <;> simp

end WholeQuotients

section Exactness

variable {n : Int} {place : Nat}

lemma isExact_of_toInt? {x : Binary64} (hfinite : x.IsFinite) (h : x.toInt? = some n) : IsExact n := by
  cases x with
  | finite negative mantissa exponent =>
    obtain ⟨hmantissa, -, hmax⟩ := hfinite
    have hsigned (m : Nat) : (if negative then -(m : Int) else m).natAbs = m := by cases negative <;> simp
    rw [toInt?] at h
    obtain ⟨e, rfl | rfl⟩ := exponent.eq_nat_or_neg
    · refine ⟨mantissa, e, hmantissa, hmax, ?_⟩
      simp only [powerOfTwo_natCast, Nat.mod_one, Nat.div_one, if_true, Option.some.injEq] at h
      rw [← h]
      exact hsigned (mantissa * 2 ^ e)
    · have hpower : powerOfTwo (-(e : Int)) = (1, 2 ^ e) := by simp [powerOfTwo]
      refine ⟨mantissa / 2 ^ e, 0, (Nat.div_le_self _ _).trans_lt hmantissa, by decide, ?_⟩
      simp only [hpower, mul_one] at h
      split at h
      · rw [Option.some.injEq] at h
        rw [← h, pow_zero, mul_one]
        exact hsigned (mantissa / 2 ^ e)
      · cases h
  | infinite negative => cases h
  | nan => cases h

lemma IsExact.lt_overflowStart (h : IsExact n) : n.natAbs < overflowStart := by
  obtain ⟨mantissa, exponent, hmantissa, hmax, hn⟩ := h
  have hpower (top : Nat) (htop : exponent ≤ top + 1) : 2 ^ exponent ≤ 2 ^ top * 2 := by
    rw [← pow_succ]
    exact Nat.pow_le_pow_right two_pos htop
  have hexponent : exponent ≤ 970 + 1 := by
    simp only [maxExponent] at hmax
    omega
  calc n.natAbs = mantissa * 2 ^ exponent := hn
    _ ≤ (2 ^ 53 - 1) * (2 ^ 970 * 2) := Nat.mul_le_mul (by omega) (hpower 970 hexponent)
    _ = (2 ^ 54 - 2) * 2 ^ 970 := by
      generalize 2 ^ 970 = scale
      omega
    _ < overflowStart := by
      rw [overflowStart]
      exact Nat.mul_lt_mul_of_pos_right (by norm_num) (by positivity)

lemma IsExact.two_pow_dvd (h : IsExact n) (hlarge : 2 ^ (place + 52) ≤ n.natAbs) : 2 ^ place ∣ n.natAbs := by
  obtain ⟨mantissa, exponent, hmantissa, -, hn⟩ := h
  have hless : 2 ^ (place + 52) < 2 ^ (53 + exponent) := by
    apply hlarge.trans_lt
    rw [hn, pow_add]
    exact Nat.mul_lt_mul_of_pos_right hmantissa (Nat.two_pow_pos exponent)
  have hplace : place ≤ exponent := by
    have := (Nat.pow_lt_pow_iff_right (by decide)).mp hless
    omega
  rw [hn]
  exact dvd_mul_of_dvd_right (pow_dvd_pow 2 hplace) mantissa

lemma IsExact.rounded_nearest (h : IsExact n) {k : Nat} (hplace : 0 < place → 2 ^ (place + 52) ≤ k) :
    |(k : Int) - (roundHalfEven k (2 ^ place) * 2 ^ place : Nat)| ≤ |(k : Int) - n.natAbs| := by
  have hnearest (m : Nat) : |(k : Int) - (roundHalfEven k (2 ^ place) * 2 ^ place : Nat)| ≤
      |(k : Int) - (m * 2 ^ place : Nat)| := by
    simpa using roundHalfEven_nearest (Nat.two_pow_pos place) k m
  rcases Nat.eq_zero_or_pos place with rfl | hpos
  · simpa using hnearest n.natAbs
  by_cases hlarge : 2 ^ (place + 52) ≤ n.natAbs
  · obtain ⟨m, hm⟩ := h.two_pow_dvd hlarge
    rw [hm, mul_comm (2 ^ place)]
    exact hnearest m
  · -- the least number over 53 bits lies between the two
    have hbetween := hnearest (2 ^ 52)
    have hk := hplace hpos
    rw [← pow_add, add_comm 52] at hbetween
    rw [abs_of_nonneg (by omega : 0 ≤ (k : Int) - (2 ^ (place + 52) : Nat))] at hbetween
    rw [abs_of_nonneg (by omega : 0 ≤ (k : Int) - n.natAbs)]
    omega

end Exactness

end SuiteRunner.Binary64

namespace SuiteRunner.Proofs
open World

/-- The literals of two integers with the sign of division between them. -/
def quotientText (a b : Int) : Text :=
  Text.ofInt a ++ " / ".toList ++ Text.ofInt b

section Dividing

variable {w : World} {agent : Agent} {depth : Nat} {a b q : Int}

lemma quotientText_eq (a b : Int) : quotientText a b = operationText .div a b := by
  simp [quotientText, operationText, Operator.text]

lemma value_quotientText (ha : a.natAbs < 10 ^ maxIntegerDigits) (hb : b.natAbs < 10 ^ maxIntegerDigits) :
    w.value agent (depth + 1) (quotientText a b) = World.apply agent .div (.int a) (.int b) := by
  rw [quotientText_eq, value_operationText_of_lt ha hb]

lemma exists_nearestQuotient_mul (q : Int) (hb : b ≠ 0) :
    ∃ negative, nearestQuotient (q * b) b = Binary64.ofRatio negative (q.natAbs * b.natAbs) b.natAbs ∧
      (if negative then -1 else 1) * (q.natAbs : Int) = q := by
  refine ⟨decide (q * b < 0) != decide (b < 0), by rw [nearestQuotient, Int.natAbs_mul], ?_⟩
  rcases lt_trichotomy q 0 with hq | rfl | hq
  · have hsign : (decide (q * b < 0) != decide (b < 0)) = true := by
      rcases hb.lt_or_gt with hb | hb
      · simp [(mul_pos_of_neg_of_neg hq hb).le, hb]
      · simp [mul_neg_of_neg_of_pos hq hb, hb.le]
    rw [hsign, if_pos rfl]
    omega
  · simp
  · have hsign : (decide (q * b < 0) != decide (b < 0)) = false := by
      rcases hb.lt_or_gt with hb | hb
      · simp [mul_neg_of_pos_of_neg hq hb, hb]
      · simp [(mul_pos hq hb).not_gt, hb.not_gt]
    rw [hsign, if_neg Bool.false_ne_true]
    omega

lemma exists_wholeQuotient (hb : b ≠ 0) (hq : q.natAbs < Binary64.overflowStart) :
    ∃ n, (nearestQuotient (q * b) b).toInt? = some n ∧ ∀ m, Binary64.IsExact m → |q - n| ≤ |q - m| := by
  obtain ⟨negative, hnearest, hsign⟩ := exists_nearestQuotient_mul q hb
  obtain ⟨place, hplace, hvalue⟩ := Binary64.exists_place negative (Int.natAbs_pos.mpr hb) hq
  refine ⟨_, hnearest ▸ hvalue, fun m hm => ?_⟩
  have hrounded := hm.rounded_nearest hplace
  generalize roundHalfEven q.natAbs (2 ^ place) * 2 ^ place = rounded at hvalue hrounded
  have hunit : |(if negative then -1 else 1 : Int)| = 1 := by cases negative <;> rfl
  calc |q - (if negative then -1 else 1) * (rounded : Int)|
      = |(q.natAbs : Int) - rounded| := by
        nth_rewrite 1 [← hsign]
        rw [← mul_sub, abs_mul, hunit, one_mul]
    _ ≤ |(q.natAbs : Int) - m.natAbs| := hrounded
    _ ≤ |q - m| := by
        rw [← Int.abs_eq_natAbs, ← Int.abs_eq_natAbs]
        exact abs_abs_sub_abs_le q m

lemma overflowStart_lt : Binary64.overflowStart < 10 ^ maxIntegerDigits := by
  have hpower (k : Nat) (hk : k ≤ maxIntegerDigits) : 2 ^ k ≤ 10 ^ maxIntegerDigits :=
    (Nat.pow_le_pow_left (by decide) k).trans (Nat.pow_le_pow_right (by decide) hk)
  calc Binary64.overflowStart < 2 ^ 54 * 2 ^ 970 :=
        Nat.mul_lt_mul_of_pos_right (by norm_num) (by positivity)
    _ = 2 ^ (54 + 970) := (pow_add 2 54 970).symm
    _ ≤ 10 ^ maxIntegerDigits := hpower _ (by decide)

section Short

variable (hdividend : (q * b).natAbs < 10 ^ maxIntegerDigits) (hdivisor : b.natAbs < 10 ^ maxIntegerDigits)

include hdividend hdivisor

lemma exists_evaluate_quotientText (hb : b ≠ 0) (hq : q.natAbs < Binary64.overflowStart) :
    ∃ n, Binary64.IsExact n ∧ (∀ m, Binary64.IsExact m → |q - n| ≤ |q - m|) ∧
      evaluate (depth + 1) (quotientText (q * b) b) agent w = .ok (Text.ofInt n) := by
  obtain ⟨n, hn, hnearest⟩ := exists_wholeQuotient hb hq
  have hexact : Binary64.IsExact n := by
    rcases Binary64.ofRatio_isFinite (decide (q * b < 0) != decide (b < 0)) (q * b).natAbs b.natAbs with
      hinfinite | hfinite
    · rw [nearestQuotient, hinfinite] at hn
      cases hn
    · exact Binary64.isExact_of_toInt? hfinite hn
  have happly : World.apply agent .div (.int (q * b)) (.int b) = .ok (.int n) := by
    simp [World.apply, hb, quotient_of_whole hn, Except.mapError]
  have htext : Value.text (.int n) = .ok (Text.ofInt n) :=
    integerText_of_lt (hexact.lt_overflowStart.trans overflowStart_lt)
  exact ⟨n, hexact, hnearest, evaluate_eq_ok_iff.mpr ⟨_, (value_quotientText hdividend hdivisor).trans happly, htext⟩⟩

lemma evaluate_quotientText_tooLarge (hb : b ≠ 0) (hq : Binary64.overflowStart ≤ q.natAbs) :
    evaluate (depth + 1) (quotientText (q * b) b) agent w = .error (.fault quotientTooLarge) := by
  have hlarge : Binary64.overflowStart * b.natAbs ≤ (q * b).natAbs := by
    rw [Int.natAbs_mul]
    exact Nat.mul_le_mul_right b.natAbs hq
  obtain ⟨negative, hinfinite⟩ := (nearestQuotient_infinite_iff hb).mpr hlarge
  have happly : World.apply agent .div (.int (q * b)) (.int b) = .error (.fault quotientTooLarge) := by
    simp [World.apply, hb, quotient_of_infinite hinfinite, Except.mapError]
  exact evaluate_eq_error_iff.mpr (.inl ((value_quotientText hdividend hdivisor).trans happly))

lemma evaluate_quotientText_eq_iff (hb : b ≠ 0) :
    evaluate (depth + 1) (quotientText (q * b) b) agent w = .ok (Text.ofInt q) ↔ Binary64.IsExact q := by
  constructor
  · intro h
    rcases Nat.lt_or_ge q.natAbs Binary64.overflowStart with hsmall | hlarge
    · obtain ⟨n, hn, -, hanswer⟩ := exists_evaluate_quotientText hdividend hdivisor hb hsmall
      rw [hanswer, Except.ok.injEq] at h
      exact ofInt_injective h ▸ hn
    · rw [evaluate_quotientText_tooLarge hdividend hdivisor hb hlarge] at h
      cases h
  · intro hexact
    obtain ⟨n, -, hnearest, hanswer⟩ := exists_evaluate_quotientText hdividend hdivisor hb hexact.lt_overflowStart
    -- the quotient is one of the integers than which no other is nearer
    have hzero : |q - n| ≤ 0 := by simpa using hnearest q hexact
    have hsame : q = n := sub_eq_zero.mp (abs_nonpos_iff.mp hzero)
    rw [hanswer, hsame]

end Short

lemma evaluate_quotientText_of_long :
    (10 ^ maxIntegerDigits ≤ a.natAbs → evaluate (depth + 1) (quotientText a b) agent w =
      .error (.fault (tooLongLiteral (Text.ofNat a.natAbs).length))) ∧
      (a.natAbs < 10 ^ maxIntegerDigits → 10 ^ maxIntegerDigits ≤ b.natAbs →
        evaluate (depth + 1) (quotientText a b) agent w =
          .error (.fault (tooLongLiteral (Text.ofNat b.natAbs).length))) := by
  constructor
  · intro ha
    apply evaluate_eq_error_iff.mpr (.inl _)
    rw [quotientText_eq, value_operationText, value_ofInt_of_le ha]
    rfl
  · intro ha hb
    apply evaluate_eq_error_iff.mpr (.inl _)
    rw [quotientText_eq, value_operationText, value_ofInt_of_lt ha, value_ofInt_of_le hb]
    rfl

end Dividing

/-- An integer divided by a divisor of it, where neither is too long to be read: the exact quotient is the answer if it
has no more than 53 bits, or zeros after these, and only then. Otherwise the answer is the nearest integer of this
kind, and there is none from halfway between the greatest of them and the power of two above it. Where one of the two
is too long, the first of those that are is the fault. -/
theorem evaluate_wholeQuotient_iff (w : World) (agent : Agent) (depth : Nat) {a b : Int} (hb : b ≠ 0) (hdvd : b ∣ a) :
    (evaluate (depth + 1) (quotientText a b) agent w = .ok (Text.ofInt (a / b)) ↔
      Binary64.IsExact (a / b) ∧ a.natAbs < 10 ^ maxIntegerDigits ∧ b.natAbs < 10 ^ maxIntegerDigits) ∧
      (a.natAbs < 10 ^ maxIntegerDigits → b.natAbs < 10 ^ maxIntegerDigits →
        ((a / b).natAbs < Binary64.overflowStart → ∃ n, Binary64.IsExact n ∧
          (∀ m, Binary64.IsExact m → |a / b - n| ≤ |a / b - m|) ∧
            evaluate (depth + 1) (quotientText a b) agent w = .ok (Text.ofInt n)) ∧
        (Binary64.overflowStart ≤ (a / b).natAbs →
          evaluate (depth + 1) (quotientText a b) agent w = .error (.fault quotientTooLarge))) ∧
      (10 ^ maxIntegerDigits ≤ a.natAbs → evaluate (depth + 1) (quotientText a b) agent w =
        .error (.fault (tooLongLiteral (Text.ofNat a.natAbs).length))) ∧
      (a.natAbs < 10 ^ maxIntegerDigits → 10 ^ maxIntegerDigits ≤ b.natAbs →
        evaluate (depth + 1) (quotientText a b) agent w =
          .error (.fault (tooLongLiteral (Text.ofNat b.natAbs).length))) := by
  refine ⟨?_, ?_, evaluate_quotientText_of_long⟩ <;> obtain ⟨q, rfl⟩ := hdvd <;>
    rw [Int.mul_ediv_cancel_left q hb, mul_comm]
  · by_cases hdividend : (q * b).natAbs < 10 ^ maxIntegerDigits
    · by_cases hdivisor : b.natAbs < 10 ^ maxIntegerDigits
      · simp only [evaluate_quotientText_eq_iff hdividend hdivisor hb, hdividend, hdivisor, and_true]
      · simp [evaluate_quotientText_of_long.2 hdividend (Nat.not_lt.mp hdivisor), hdivisor]
    · simp [evaluate_quotientText_of_long.1 (Nat.not_lt.mp hdividend), hdividend]
  · intro hdividend hdivisor
    exact ⟨exists_evaluate_quotientText hdividend hdivisor hb, evaluate_quotientText_tooLarge hdividend hdivisor hb⟩

theorem evaluate_wholeQuotient_three_bits :
    let a : Int := -24211351596743786496
    (7 : Int) ≠ 0 ∧ 7 ∣ a ∧ Binary64.IsExact (a / 7) ∧
      evaluate 1 (quotientText a 7) .observer {} = .ok (Text.ofInt (a / 7)) := by
  intro a
  have hb : (7 : Int) ≠ 0 := by decide
  have hdvd : 7 ∣ a := by decide
  have hexact : Binary64.IsExact (a / 7) := ⟨3, 60, by decide, by decide, by decide⟩
  have hshort (n : Int) (hn : n.natAbs < 10 ^ 20) : n.natAbs < 10 ^ maxIntegerDigits :=
    hn.trans_le (Nat.pow_le_pow_right (by decide) (by decide))
  have hlimit : a.natAbs < 10 ^ maxIntegerDigits ∧ (7 : Int).natAbs < 10 ^ maxIntegerDigits :=
    ⟨hshort a (by decide), hshort 7 (by decide)⟩
  exact ⟨hb, hdvd, hexact, (evaluate_wholeQuotient_iff {} .observer 0 hb hdvd).1.mpr ⟨hexact, hlimit⟩⟩

/-- An integer of 54 bits is not its quotient by one, and there are integers that cannot be divided by one. -/
theorem evaluate_wholeQuotient_inexact :
    quotientText 9007199254740993 1 = "9007199254740993 / 1".toList ∧
      Text.ofInt (9007199254740993 / 1) ≠ "9007199254740992".toList ∧
      evaluate depthLimit "9007199254740993 / 1".toList .observer {} = .ok "9007199254740992".toList ∧
      evaluate depthLimit ('1' :: List.replicate 309 '0' ++ " / 1".toList) .observer {} =
        .error (.fault quotientTooLarge) := by
  decide +kernel

end SuiteRunner.Proofs
