import SuiteRunner.Engine.Fault
import SuiteRunner.Number.Integer

/-!
The failures over integers that have too many digits to be read or printed.
-/

namespace SuiteRunner

/-- What is said of every integer with too many digits, up to how many there are. -/
def exceedsLimit : Text :=
  "Exceeds the limit (".toList ++ Text.ofNat maxIntegerDigits ++ " digits) for integer string conversion".toList

/-- How the limit could be raised. -/
def raiseLimit : Text :=
  "; use sys.set_int_max_str_digits() to increase the limit".toList

/-- A literal has too many digits. -/
def tooLongLiteral (digits : Nat) : Fault :=
  .foreign "ValueError".toList
    (exceedsLimit ++ ": value has ".toList ++ Text.ofNat digits ++ " digits".toList ++ raiseLimit)

/-- An integer has too many digits to be printed. -/
def tooLongInteger : Fault :=
  .foreign "ValueError".toList (exceedsLimit ++ raiseLimit)

/-- The integer as it is printed. -/
def integerText (n : Int) : Except Fault Text :=
  match writeInt? n with
  | some t => .ok t
  | none => .error tooLongInteger

end SuiteRunner
