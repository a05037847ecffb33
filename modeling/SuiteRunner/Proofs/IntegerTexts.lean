import Mathlib.Data.List.Basic
import Mathlib.Data.List.TakeWhile
import Mathlib.Tactic.Common
import SuiteRunner.Proofs.Evaluation
import SuiteRunner.Proofs.Fallible

/-!
# Integers as texts

A word that is taken for an integer is made of digits after minus signs. It is read as one exactly if it has at most
one minus sign, if all its digits have a place value, and if they are not too many; an integer is written exactly if it
has not too many digits, and what is written is read as the same integer. So a value has an answer unless it is an
integer with too many digits.
-/

namespace SuiteRunner.Proofs
open World

/-- Digits of either sort after so many minus signs. -/
structure IsLiteral (word : Text) (minuses : Nat) (digits : Text) : Prop where
  word_eq : word = List.replicate minuses '-' ++ digits
  ne_nil : digits ≠ []
  digits : ∀ c ∈ digits, isDigit c = true

/-- After at most one minus sign there are more digits with a place value than an integer may have, so many of them. -/
def IsLongLiteral (word : Text) (count : Nat) : Prop :=
  ∃ minuses digits, IsLiteral word minuses digits ∧ minuses ≤ 1 ∧ (digits.takeWhile isDecimalDigit).length = count ∧
    maxIntegerDigits < count

/-- There is more than one minus sign, or a digit has no place value and too many that have one do not come first. -/
def IsBrokenLiteral (word : Text) : Prop :=
  ∃ minuses digits, IsLiteral word minuses digits ∧
    (2 ≤ minuses ∨ (digits.takeWhile isDecimalDigit).length ≤ maxIntegerDigits ∧ ∃ c ∈ digits, isDecimalDigit c = false)

/-- Digits of ASCII after at most one minus sign. -/
def IsDecimal (t : Text) : Prop :=
  ∃ digits, digits ≠ [] ∧ (∀ c ∈ digits, c.isDigit = true) ∧ (t = digits ∨ t = '-' :: digits)

/-- The value is printed as an integer that has more digits than an integer may have. -/
def IsTooLong (v : Value) : Prop :=
  ∃ n, v.toInt? = some n ∧ 10 ^ maxIntegerDigits ≤ n.natAbs

section Digits

variable {t digits : Text} {c : Char} {count : Nat}

lemma digitValue?_eq_none_iff : digitValue? c = none ↔ isDecimalDigit c = false := by
  simp [digitValue?, isDecimalDigit, CharRanges.has]

lemma readNat?_eq_none_iff : readNat? t = none ↔ t = [] ∨ ∃ c ∈ t, isDecimalDigit c = false := by
  let add (value : Option Nat) (c : Char) : Option Nat := value.bind fun n => (digitValue? c).map (n * 10 + ·)
  have hnone (t : Text) : t.foldl add none = none := by
    induction t with
    | nil => rfl
    | cons c t ih => exact ih
  have hsome (t : Text) (n : Nat) : t.foldl add (some n) = none ↔ ∃ c ∈ t, isDecimalDigit c = false := by
    induction t generalizing n with
    | nil => simp
    | cons c t ih =>
      rw [List.foldl_cons, List.exists_mem_cons_iff, ← digitValue?_eq_none_iff]
      cases hc : digitValue? c with
      | none => simp [add, hc, hnone]
      | some d => simpa [add, hc] using ih (n * 10 + d)
  cases t with
  | nil => simp [readNat?]
  | cons c t =>
    change List.foldl add (some 0) (c :: t) = none ↔ _
    rw [hsome]
    simp

lemma readNat_eq_tooLong_iff :
    readNat t = .error (.tooLong count) ↔
      (t.takeWhile isDecimalDigit).length = count ∧ maxIntegerDigits < count := by
  rw [readNat]
  split
  case isTrue hlong =>
    simp only [Except.error.injEq, IntegerFault.tooLong.injEq]
    exact ⟨fun h => ⟨h, h ▸ hlong⟩, And.left⟩
  case isFalse hshort =>
    have hnot : ¬ ((t.takeWhile isDecimalDigit).length = count ∧ maxIntegerDigits < count) := by
      rintro ⟨rfl, hlong⟩
      exact hshort hlong
    cases readNat? t <;> simp [hnot]

lemma readNat_eq_noLiteral_iff :
    readNat t = .error .noLiteral ↔
      (t.takeWhile isDecimalDigit).length ≤ maxIntegerDigits ∧ (t = [] ∨ ∃ c ∈ t, isDecimalDigit c = false) := by
  rw [readNat, ← readNat?_eq_none_iff]
  split
  case isTrue hlong => simp [Nat.not_le.mpr hlong]
  case isFalse hshort => cases readNat? t <;> simp [Nat.not_lt.mp hshort]

lemma isDigit_bounds (h : c.isDigit = true) : 0x30 ≤ c.toNat ∧ c.toNat ≤ 0x39 := by
  rw [Char.isDigit, Bool.and_eq_true, decide_eq_true_eq, decide_eq_true_eq] at h
  exact h

lemma digitValue?_of_isDigit (h : c.isDigit = true) : digitValue? c = some (c.toNat - '0'.toNat) := by
  obtain ⟨hlow, hhigh⟩ := isDigit_bounds h
  have hvalue : (c.toNat - 0x30) % 10 = c.toNat - 0x30 := Nat.mod_eq_of_lt (by omega)
  rw [digitValue?, decimalDigitRanges, List.find?_cons_of_pos (by simp [hlow, hhigh])]
  exact congrArg some hvalue

lemma isDecimalDigit_of_isDigit (h : c.isDigit = true) : isDecimalDigit c = true := by
  rw [← Bool.not_eq_false, ← digitValue?_eq_none_iff, digitValue?_of_isDigit h]
  simp

lemma takeWhile_digits (hdigits : ∀ c ∈ digits, c.isDigit = true) : digits.takeWhile isDecimalDigit = digits :=
  List.takeWhile_eq_self_iff.mpr fun c hc => isDecimalDigit_of_isDigit (hdigits c hc)

lemma readNat?_digits (hne : digits ≠ []) (hdigits : ∀ c ∈ digits, c.isDigit = true) :
    readNat? digits = some (Nat.ofDigitChars 10 digits 0) := by
  have hfold (digits : Text) (n : Nat) (hdigits : ∀ c ∈ digits, c.isDigit = true) :
      digits.foldl (fun value c => value.bind fun n => (digitValue? c).map (n * 10 + ·)) (some n) =
        some (Nat.ofDigitChars 10 digits n) := by
    induction digits generalizing n with
    | nil => rfl
    | cons c digits ih =>
      obtain ⟨hc, hrest⟩ := List.forall_mem_cons.mp hdigits
      rw [List.foldl_cons, Option.bind_some, digitValue?_of_isDigit hc, Option.map_some, ih _ hrest, Nat.mul_comm n 10]
      rfl
  rw [readNat?, if_neg (by simpa using hne), hfold digits 0 hdigits]

lemma readNat_digits (hne : digits ≠ []) (hdigits : ∀ c ∈ digits, c.isDigit = true) :
    readNat digits =
      if maxIntegerDigits < digits.length then .error (.tooLong digits.length)
      else .ok (Nat.ofDigitChars 10 digits 0) := by
  rw [readNat, takeWhile_digits hdigits, readNat?_digits hne hdigits]

end Digits

section Literals

variable {t word digits : Text} {minuses count : Nat}

lemma ne_minus_of_isDigit {c : Char} (h : isDigit c = true) : c ≠ '-' := by
  rintro rfl
  exact absurd h (by decide)

lemma looksNumeric_iff : looksNumeric word = true ↔ ∃ minuses digits, IsLiteral word minuses digits := by
  simp only [looksNumeric, Bool.and_eq_true, Bool.not_eq_true', List.isEmpty_eq_false_iff, List.all_eq_true]
  constructor
  · rintro ⟨hne, hdigits⟩
    refine ⟨(word.takeWhile (· == '-')).length, word.dropWhile (· == '-'), ?_, hne, hdigits⟩
    have hminuses : word.takeWhile (· == '-') = List.replicate (word.takeWhile (· == '-')).length '-' := by
      apply List.eq_replicate_of_mem
      intro c hc
      simpa using List.all_eq_true.mp List.all_takeWhile c hc
    rw [← hminuses, List.takeWhile_append_dropWhile]
  · rintro ⟨minuses, digits, rfl, hne, hdigits⟩
    have hdrop : (List.replicate minuses '-' ++ digits).dropWhile (· == '-') = digits := by
      rw [List.dropWhile_append_of_pos (by simp)]
      cases digits with
      | nil => rfl
      | cons c digits =>
        apply List.dropWhile_cons_of_neg
        simpa using ne_minus_of_isDigit (hdigits c List.mem_cons_self)
    rw [hdrop]
    exact ⟨hne, hdigits⟩

lemma readInt_minus (t : Text) : readInt ('-' :: t) = (readNat t).map fun (n : Nat) => -(n : Int) := by
  rw [readInt]

lemma readInt_of_ne_minus {c : Char} (hc : c ≠ '-') : readInt (c :: t) = (readNat (c :: t)).map Int.ofNat := by
  unfold readInt
  split
  case h_1 heq => exact absurd (List.cons.inj heq).1 hc
  case h_2 => rfl

lemma IsLiteral.readInt_eq_error_iff (h : IsLiteral word minuses digits) (hminuses : minuses ≤ 1)
    {fault : IntegerFault} : readInt word = .error fault ↔ readNat digits = .error fault := by
  obtain ⟨rfl, hne, hdigits⟩ := h
  rcases Nat.le_one_iff_eq_zero_or_eq_one.mp hminuses with rfl | rfl
  · obtain ⟨c, rest, rfl⟩ := List.exists_cons_of_ne_nil hne
    have hminus : c ≠ '-' := ne_minus_of_isDigit (hdigits c List.mem_cons_self)
    rw [List.replicate_zero, List.nil_append, readInt_of_ne_minus hminus, map_eq_error_iff]
  · rw [List.replicate_one, List.singleton_append, readInt_minus, map_eq_error_iff]

lemma IsLiteral.readInt_of_minuses (h : IsLiteral word minuses digits) (hminuses : 2 ≤ minuses) :
    readInt word = .error .noLiteral := by
  obtain ⟨more, rfl⟩ := Nat.exists_eq_add_of_le' hminuses
  obtain ⟨rfl, -, -⟩ := h
  have hread : readNat ('-' :: (List.replicate more '-' ++ digits)) = .error .noLiteral :=
    readNat_eq_noLiteral_iff.mpr ⟨Nat.zero_le _, .inr ⟨'-', List.mem_cons_self, by decide⟩⟩
  rw [List.replicate_succ, List.cons_append, readInt_minus, List.replicate_succ, List.cons_append, hread]
  rfl

lemma isBrokenLiteral_iff : IsBrokenLiteral word ↔ looksNumeric word = true ∧ readInt word = .error .noLiteral := by
  rw [looksNumeric_iff]
  constructor
  · rintro ⟨minuses, digits, h, hbroken⟩
    refine ⟨⟨minuses, digits, h⟩, ?_⟩
    by_cases hminuses : 2 ≤ minuses
    · exact h.readInt_of_minuses hminuses
    · obtain ⟨hshort, hdigit⟩ := hbroken.resolve_left hminuses
      rw [h.readInt_eq_error_iff (by omega), readNat_eq_noLiteral_iff]
      exact ⟨hshort, .inr hdigit⟩
  · rintro ⟨⟨minuses, digits, h⟩, hread⟩
    refine ⟨minuses, digits, h, ?_⟩
    by_cases hminuses : 2 ≤ minuses
    · exact .inl hminuses
    · rw [h.readInt_eq_error_iff (by omega), readNat_eq_noLiteral_iff] at hread
      exact .inr ⟨hread.1, hread.2.resolve_left h.ne_nil⟩

lemma isLongLiteral_iff :
    IsLongLiteral word count ↔ looksNumeric word = true ∧ readInt word = .error (.tooLong count) := by
  rw [looksNumeric_iff]
  constructor
  · rintro ⟨minuses, digits, h, hminuses, hcount⟩
    exact ⟨⟨minuses, digits, h⟩, (h.readInt_eq_error_iff hminuses).mpr (readNat_eq_tooLong_iff.mpr hcount)⟩
  · rintro ⟨⟨minuses, digits, h⟩, hread⟩
    have hminuses : minuses ≤ 1 := by
      by_contra hmore
      rw [h.readInt_of_minuses (by omega)] at hread
      cases hread
    exact ⟨minuses, digits, h, hminuses, readNat_eq_tooLong_iff.mp ((h.readInt_eq_error_iff hminuses).mp hread)⟩

lemma exists_unreadInteger (word : Text) (fault : IntegerFault) :
    ∃ text, unreadInteger word fault = .foreign "ValueError".toList text := by
  cases fault <;> exact ⟨_, rfl⟩

end Literals

section Decimals

variable {t digits : Text}

lemma readInt_digits (hne : digits ≠ []) (hdigits : ∀ c ∈ digits, c.isDigit = true) :
    readInt digits = (readNat digits).map Int.ofNat := by
  obtain ⟨c, rest, rfl⟩ := List.exists_cons_of_ne_nil hne
  apply readInt_of_ne_minus
  rintro rfl
  exact absurd (hdigits '-' List.mem_cons_self) (by decide)

lemma IsDecimal.exists_isLiteral (h : IsDecimal t) : ∃ minuses digits, IsLiteral t minuses digits := by
  obtain ⟨digits, hne, hdigits, ht⟩ := h
  have hall : ∀ c ∈ digits, isDigit c = true := fun c hc => by
    simp [isDigit, isDecimalDigit_of_isDigit (hdigits c hc)]
  rcases ht with rfl | rfl
  · exact ⟨0, t, rfl, hne, hall⟩
  · exact ⟨1, digits, rfl, hne, hall⟩

lemma IsDecimal.looksNumeric (h : IsDecimal t) : looksNumeric t = true :=
  looksNumeric_iff.mpr h.exists_isLiteral

lemma IsDecimal.read (h : IsDecimal t) : (∃ n, readInt t = .ok n) ∨ ∃ count, IsLongLiteral t count := by
  cases hread : readInt t with
  | ok n => exact .inl ⟨n, rfl⟩
  | error fault =>
    cases fault with
    | tooLong count => exact .inr ⟨count, isLongLiteral_iff.mpr ⟨h.looksNumeric, hread⟩⟩
    | noLiteral =>
      obtain ⟨digits, hne, hdigits, rfl | rfl⟩ := h
      · rw [readInt_digits hne hdigits, readNat_digits hne hdigits] at hread
        split at hread <;> cases hread
      · rw [readInt_minus, readNat_digits hne hdigits] at hread
        split at hread <;> cases hread

end Decimals

section Integers

variable {n : Int}

lemma digits_ofNat (n : Nat) : Text.ofNat n ≠ [] ∧ ∀ c ∈ Text.ofNat n, c.isDigit = true :=
  ⟨Nat.toDigits_ne_nil, fun _ hc => Nat.isDigit_of_mem_toDigits (by decide) (by decide) hc⟩

lemma isDecimal_ofInt (n : Int) : IsDecimal (Text.ofInt n) := by
  cases n with
  | ofNat n => exact ⟨Text.ofNat n, (digits_ofNat n).1, (digits_ofNat n).2, .inl rfl⟩
  | negSucc n => exact ⟨Text.ofNat (n + 1), (digits_ofNat _).1, (digits_ofNat _).2, .inr rfl⟩

lemma lt_digitCount_iff (n : Nat) : maxIntegerDigits < (Text.ofNat n).length ↔ 10 ^ maxIntegerDigits ≤ n := by
  have hcount : (Nat.toDigits 10 n).length ≤ maxIntegerDigits ↔ n < 10 ^ maxIntegerDigits :=
    Nat.length_toDigits_le_iff (by decide) (by decide)
  rw [← Nat.not_le, ← Nat.not_lt (b := 10 ^ maxIntegerDigits)]
  exact not_congr hcount

lemma readNat_ofNat (n : Nat) :
    readNat (Text.ofNat n) =
      if 10 ^ maxIntegerDigits ≤ n then .error (.tooLong (Text.ofNat n).length) else .ok n := by
  have hread : Nat.ofDigitChars 10 (Text.ofNat n) 0 = n := Nat.ofDigitChars_ten_toDigits
  simp only [readNat_digits (digits_ofNat n).1 (digits_ofNat n).2, hread, lt_digitCount_iff]

/-- What an integer is written as is read as this integer, unless it has too many digits. -/
theorem readInt_ofInt (n : Int) :
    readInt (Text.ofInt n) =
      if 10 ^ maxIntegerDigits ≤ n.natAbs then .error (.tooLong (Text.ofNat n.natAbs).length) else .ok n := by
  cases n with
  | ofNat n =>
    rw [Text.ofInt, readInt_digits (digits_ofNat n).1 (digits_ofNat n).2, readNat_ofNat]
    change _ = if 10 ^ maxIntegerDigits ≤ n then _ else _
    split <;> rfl
  | negSucc n =>
    rw [Text.ofInt, readInt_minus, readNat_ofNat]
    change _ = if 10 ^ maxIntegerDigits ≤ n + 1 then _ else _
    split <;> rfl

lemma readInt_ofInt_of_lt (h : n.natAbs < 10 ^ maxIntegerDigits) : readInt (Text.ofInt n) = .ok n := by
  rw [readInt_ofInt, if_neg (Nat.not_le.mpr h)]

lemma integerText_of_lt (h : n.natAbs < 10 ^ maxIntegerDigits) : integerText n = .ok (Text.ofInt n) := by
  rw [integerText, writeInt?, if_neg (mt (lt_digitCount_iff _).mp (Nat.not_le.mpr h))]

lemma integerText_of_le (h : 10 ^ maxIntegerDigits ≤ n.natAbs) : integerText n = .error tooLongInteger := by
  rw [integerText, writeInt?, if_pos ((lt_digitCount_iff _).mpr h)]

lemma integerText_eq_error_iff {fault : Fault} :
    integerText n = .error fault ↔ 10 ^ maxIntegerDigits ≤ n.natAbs ∧ fault = tooLongInteger := by
  by_cases h : 10 ^ maxIntegerDigits ≤ n.natAbs
  · simp [integerText_of_le h, h, eq_comm]
  · simp [integerText_of_lt (Nat.not_le.mp h), h]

lemma ofInt_injective : Function.Injective Text.ofInt := by
  have hread (n : Nat) : Nat.ofDigitChars 10 (Text.ofNat n) 0 = n := Nat.ofDigitChars_ten_toDigits
  have hnat (m n : Nat) (h : Text.ofNat m = Text.ofNat n) : m = n := by rw [← hread m, h, hread]
  have hminus (m n : Nat) : Text.ofNat m ≠ '-' :: Text.ofNat n := fun h =>
    absurd ((digits_ofNat m).2 '-' (h ▸ List.mem_cons_self)) (by decide)
  intro m n h
  cases m with
  | ofNat m =>
    cases n with
    | ofNat n => rw [hnat m n h]
    | negSucc n => exact absurd h (hminus m _)
  | negSucc m =>
    cases n with
    | ofNat n => exact absurd h.symm (hminus n _)
    | negSucc n => rw [Nat.succ.inj (hnat _ _ (List.cons.inj h).2)]

end Integers

section Values

variable {v : Value}

lemma text_of_toInt? {n : Int} (h : v.toInt? = some n) : v.text = integerText n := by
  cases v with
  | int m =>
    cases h
    rfl
  | bool b => cases h
  | float x =>
    have hx : x.toInt? = some n := h
    rw [Value.text, hx]

/-- The values that cannot be printed are integers with too many digits. -/
theorem text_eq_error_iff {fault : Fault} : v.text = .error fault ↔ IsTooLong v ∧ fault = tooLongInteger := by
  cases hn : v.toInt? with
  | some n => simp [text_of_toInt? hn, integerText_eq_error_iff, IsTooLong, hn]
  | none =>
    cases v with
    | int n => cases hn
    | bool b => simp [Value.text, IsTooLong, hn]
    | float x =>
      have hx : x.toInt? = none := hn
      simp [Value.text, IsTooLong, hn, hx]

lemma noOperation_cases (v : Value) :
    (∃ message, noOperation v = rejected message) ∨ IsTooLong v ∧ noOperation v = .fault tooLongInteger := by
  rw [noOperation]
  cases ht : v.text with
  | ok t => exact .inl ⟨_, rfl⟩
  | error fault =>
    obtain ⟨hlong, rfl⟩ := text_eq_error_iff.mp ht
    exact .inr ⟨hlong, rfl⟩

end Values

section Answers

variable {w : World} {agent : Agent} {depth : Nat} {t : Text}

lemma evaluate_eq_ok_iff {answer : Text} :
    evaluate depth t agent w = .ok answer ↔ ∃ v, w.value agent depth t = .ok v ∧ v.text = .ok answer := by
  rw [evaluate]
  cases w.value agent depth t with
  | error stop => simp
  | ok v => simp [mapError_eq_ok_iff]

lemma evaluate_eq_error_iff {stop : Stop} :
    evaluate depth t agent w = .error stop ↔
      w.value agent depth t = .error stop ∨
        ∃ v, w.value agent depth t = .ok v ∧ IsTooLong v ∧ stop = .fault tooLongInteger := by
  rw [evaluate]
  cases w.value agent depth t with
  | error stop' => simp
  | ok v =>
    simp only [mapError_eq_error_iff, text_eq_error_iff]
    simp [eq_comm]

end Answers

end SuiteRunner.Proofs
