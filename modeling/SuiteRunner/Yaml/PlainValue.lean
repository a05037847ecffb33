import SuiteRunner.Number.OfDecimal
import SuiteRunner.Yaml.Timestamp

/-!
What plain scalars mean. Certain words are truth values or null; integers are written in decimal, binary, octal,
hexadecimal or sexagesimal form, floating-point numbers with a point; underscores may group digits. There are
dates and times. All else is text.
-/

namespace SuiteRunner.Yaml

def nullWords : List Text :=
  [[], "~".toList, "null".toList, "Null".toList, "NULL".toList]

def trueWords : List Text :=
  ["yes".toList, "Yes".toList, "YES".toList, "true".toList, "True".toList, "TRUE".toList, "on".toList, "On".toList,
   "ON".toList]

def falseWords : List Text :=
  ["no".toList, "No".toList, "NO".toList, "false".toList, "False".toList, "FALSE".toList, "off".toList, "Off".toList,
   "OFF".toList]

/-- The words that have a meaning only as keys. -/
def reservedWords : List Text :=
  ["<<".toList, "=".toList]

/-- The value of a digit in a base up to sixteen. -/
def digitOf? (base : Nat) (c : Char) : Option Nat :=
  let value :=
    if '0' ≤ c && c ≤ '9' then c.toNat - '0'.toNat
    else if 'a' ≤ c && c ≤ 'f' then c.toNat - 'a'.toNat + 10
    else if 'A' ≤ c && c ≤ 'F' then c.toNat - 'A'.toNat + 10
    else base
  if value < base then some value else none

/-- The number that digits of the base stand for, with underscores between them; there must be a digit. -/
def groupedNumber? (base : Nat) (t : Text) : Option Nat :=
  let digits := t.filter (· != '_')
  if digits.isEmpty then none
  else digits.foldl (fun value c => value.bind fun n => (digitOf? base c).map (n * base + ·)) (some 0)

/-- Whether the sign is a minus, and what follows the sign. -/
def cutSign : Text → Bool × Text
  | '-' :: rest => (true, rest)
  | '+' :: rest => (false, rest)
  | t => (false, t)

def startsWithDigit (t : Text) : Bool :=
  t.head?.any fun c => (digitOf? 10 c).isSome

/-- The places behind the first in sexagesimal form: one digit, or two of which the first is below six. -/
def sexagesimalPlace? (t : Text) : Option Nat :=
  match t with
  | [ones] => digitOf? 10 ones
  | [tens, ones] => do
    let high ← digitOf? 6 tens
    let low ← digitOf? 10 ones
    return 10 * high + low
  | _ => none

/-- The number of a first place and the places after it. -/
def sexagesimal? (first : Text) (places : List Text) : Option Nat :=
  places.foldl (fun value place => value.bind fun n => (sexagesimalPlace? place).map (n * 60 + ·))
    (groupedNumber? 10 first)

/-- The number behind the mark of a base. Digits and underscores have the form of one, even if no digit is
among them. -/
def markedNumber? (base : Nat) (t : Text) : Option (Except ScalarFault Nat) :=
  if t.isEmpty || ! t.all fun c => c == '_' || (digitOf? base c).isSome then none
  else
    match groupedNumber? base t with
    | some n => some (.ok n)
    | none => some (.error (.noDigits base))

/-- The magnitude of an integer without the mark of a base. -/
def unmarkedNumber? (t : Text) : Option Nat :=
  if t.head? = some '0' then groupedNumber? 8 t
  else if ! startsWithDigit t then none
  else
    match t.splitOn ':' with
    | first :: place :: places => sexagesimal? first (place :: places)
    | _ => groupedNumber? 10 t

/-- Decimal digits at the front, underscores aside, must not be too many. -/
def checkedLength (t : Text) (n : Nat) : Except ScalarFault Nat :=
  let digits := (t.takeWhile (· != ':')).filter (· != '_')
  if t.head? ≠ some '0' ∧ maxIntegerDigits < digits.length then .error (.tooLong digits.length) else .ok n

/-- The magnitude of an integer. -/
def naturalOf? : Text → Option (Except ScalarFault Nat)
  | '0' :: 'b' :: digits => markedNumber? 2 digits
  | '0' :: 'x' :: digits => markedNumber? 16 digits
  | t => (unmarkedNumber? t).map (checkedLength t)

/-- The integer that a plain scalar has the form of. -/
def intOf? (t : Text) : Option (Except ScalarFault Int) :=
  let (negative, digits) := cutSign t
  (naturalOf? digits).map fun magnitude => magnitude.map fun n => if negative then -(n : Int) else n

/-- The exponent of a floating-point number: nothing, or a letter, a sign and digits. -/
def exponentOf? : Text → Option Int
  | [] => some 0
  | letter :: sign :: digits =>
    if (letter == 'e' || letter == 'E') && (sign == '+' || sign == '-') &&
        digits.all (fun c => (digitOf? 10 c).isSome) then
      (groupedNumber? 10 digits).map fun n => if sign == '-' then -(n : Int) else n
    else none
  | _ => none

/-- A magnitude with digits before and after a point, and perhaps an exponent. -/
def decimalOf? (t : Text) : Option Decimal :=
  let (whole, behind) := t.cutAt '.'
  let isMark := fun (c : Char) => c == 'e' || c == 'E'
  let fraction := behind.takeWhile (! isMark ·)
  let starts := if whole.isEmpty then startsWithDigit fraction else startsWithDigit whole
  if ! t.contains '.' || ! starts then none
  else do
    let places := (fraction.filter (· != '_')).length
    let digits ← groupedNumber? 10 (whole ++ fraction)
    let exponent ← exponentOf? (behind.dropWhile (! isMark ·))
    return ⟨digits, exponent - places⟩

/-- The places of a magnitude in sexagesimal form, the last of which has a point and perhaps a fraction. -/
def sexagesimalPlaces? (t : Text) : Option (List Decimal) :=
  let (whole, fraction) := t.cutAt '.'
  let digits := fraction.filter (· != '_')
  match whole.splitOn ':' with
  | first :: place :: places =>
    if ! t.contains '.' || ! startsWithDigit first then none
    else do
      let high ← groupedNumber? 10 first
      let others ← (place :: places).mapM sexagesimalPlace?
      let part ← if digits.isEmpty then some 0 else groupedNumber? 10 digits
      let last := others.getLast?.getD 0 * Nat.pow 10 digits.length + part
      return (high :: others.dropLast).map (⟨·, 0⟩) ++ [⟨last, -(digits.length : Int)⟩]
  | _ => none

/-- Adds up places, each of which counts sixty times as much as the one before it. Every step is rounded. -/
def addPlaces : Nat → Binary64 → List Decimal → Except ScalarFault Binary64
  | _, sum, [] => .ok sum
  | power, sum, place :: places =>
    match Binary64.ofRatio false power 1 with
    | .infinite _ => .error .placeTooLarge
    | weight => addPlaces (power * 60) (sum.add ((Binary64.ofDecimal false place).mul weight)) places

/-- The magnitude of a floating-point number. -/
def magnitudeOf? (t : Text) : Option (Except ScalarFault Binary64) :=
  match decimalOf? t with
  | some d => some (.ok (.ofDecimal false d))
  | none => (sexagesimalPlaces? t).map fun places => addPlaces 1 (.finite false 0 0) places.reverse

/-- The floating-point number that a plain scalar has the form of. A number that starts with a point has no
sign. -/
def floatOf? (t : Text) : Option (Except ScalarFault Binary64) :=
  let (negative, magnitude) := cutSign t
  if [".inf".toList, ".Inf".toList, ".INF".toList].contains magnitude then some (.ok (.infinite negative))
  else if [".nan".toList, ".NaN".toList, ".NAN".toList].contains t then some (.ok .nan)
  else if magnitude.head? = some '.' ∧ magnitude ≠ t then none
  else (magnitudeOf? magnitude).map fun found => found.map fun x => if negative then x.neg else x

/-- The number, date or time that a plain scalar has the form of. -/
def measureOf? (t : Text) : Option (Except ScalarFault Scalar) :=
  ((floatOf? t).map fun found => found.map Scalar.float).or
    (((intOf? t).map fun found => found.map Scalar.int).or (timestamp? t))

/-- The meaning of a plain scalar; the reserved words have none. -/
def plainValue (t : Text) : Except Fault Scalar :=
  if reservedWords.contains t then .error .malformed
  else if nullWords.contains t then .ok .null
  else if trueWords.contains t then .ok (.bool true)
  else if falseWords.contains t then .ok (.bool false)
  else
    match measureOf? t with
    | none => .ok (.text t)
    | some (.ok value) => .ok value
    | some (.error fault) => .error (.scalar fault)

end SuiteRunner.Yaml
