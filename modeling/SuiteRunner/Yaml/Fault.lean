import SuiteRunner.Data.Date
import SuiteRunner.Engine.IntegerFault

/-!
Why a text in YAML gives no data.
-/

namespace SuiteRunner.Yaml

/-- Why a scalar has the form of a value and yet none. -/
inductive ScalarFault where
  /-- An escape names a code point beyond the last one. -/
  | notACharacter
  /-- An escape names a code point of more than 31 bits. -/
  | codeTooLarge
  /-- The digits of an integer in this base are missing. -/
  | noDigits (base : Nat)
  /-- An integer has too many digits. -/
  | tooLong (digits : Nat)
  /-- A place of a sexagesimal number counts for more than the greatest floating-point number. -/
  | placeTooLarge
  | date (fault : DateFault)
  deriving DecidableEq, Repr

/-- The failure that comes of it. -/
def ScalarFault.failure : ScalarFault → SuiteRunner.Fault
  | notACharacter => .foreign "ValueError".toList "chr() arg not in range(0x110000)".toList
  | codeTooLarge => .foreign "OverflowError".toList "Python int too large to convert to C int".toList
  | noDigits base =>
    .foreign "ValueError".toList ("invalid literal for int() with base ".toList ++ Text.ofNat base ++ ": ''".toList)
  | tooLong digits => tooLongLiteral digits
  | placeTooLarge => .foreign "OverflowError".toList "int too large to convert to float".toList
  | date fault => .foreign "ValueError".toList fault.message

inductive Fault where
  /-- The text is not that of one document, or a part of it means nothing. -/
  | malformed
  | scalar (fault : ScalarFault)
  /-- The text ends where it has to go on. -/
  | endOfText
  deriving DecidableEq, Repr

end SuiteRunner.Yaml
