import SuiteRunner.Text.Digit

/-!
Integers as texts: decimal digits of any script are read, after at most one minus sign, and those of ASCII are
written. An integer with too many digits is neither read nor written.
-/

namespace SuiteRunner

/-- So many digits an integer may have to be read or to be written. -/
def maxIntegerDigits : Nat := 4300

/-- Why a text is not read as an integer. -/
inductive IntegerFault where
  | noLiteral
  /-- The text starts with so many digits. What comes after them does not matter. -/
  | tooLong (digits : Nat)
  deriving DecidableEq, Repr

/-- The number that decimal digits of any script stand for; there must be at least one. -/
def readNat? (t : Text) : Option Nat :=
  if t.isEmpty then none
  else t.foldl (fun value c => value.bind fun n => (digitValue? c).map (n * 10 + ·)) (some 0)

/-- The number that a text stands for. Digits are counted before they are read. -/
def readNat (t : Text) : Except IntegerFault Nat :=
  let digits := (t.takeWhile isDecimalDigit).length
  if maxIntegerDigits < digits then .error (.tooLong digits)
  else
    match readNat? t with
    | some n => .ok n
    | none => .error .noLiteral

/-- The number that a literal stands for. -/
def readInt : Text → Except IntegerFault Int
  | '-' :: digits => (readNat digits).map fun (n : Nat) => -(n : Int)
  | digits => (readNat digits).map Int.ofNat

/-- The integer in decimal digits. The sign is not counted. -/
def writeInt? (n : Int) : Option Text :=
  if maxIntegerDigits < (Text.ofNat n.natAbs).length then none else some (Text.ofInt n)

end SuiteRunner
