import SuiteRunner.Data.Basic
import SuiteRunner.Yaml.Fault

/-!
Dates and times as plain scalars write them. A date alone has all its digits; before a time of day, month and day
may have one digit. The time may have a fraction of a second and an offset from universal time.
-/

namespace SuiteRunner.Yaml

/-- The digits at the front. -/
def leadingDigits (t : Text) : Text :=
  t.takeWhile fun c => '0' ≤ c && c ≤ '9'

/-- The number that digits stand for. -/
def numberOf (digits : Text) : Nat :=
  digits.foldl (fun n c => n * 10 + (c.toNat - '0'.toNat)) 0

/-- The number of the digits at the front, at least and at most so many, and what follows them. -/
def cutNumber? (least most : Nat) (t : Text) : Option (Nat × Text) :=
  let digits := (leadingDigits t).take most
  if digits.length < least then none else some (numberOf digits, t.drop digits.length)

/-- What follows the mark, if the text starts with it. -/
def cutMark? (mark : Char) : Text → Option Text
  | c :: rest => if c = mark then some rest else none
  | [] => none

def isSpaceOrTab (c : Char) : Bool :=
  c == ' ' || c == '\t'

/-- What follows the letter or the blanks between date and time. -/
def cutTimeMark? : Text → Option Text
  | c :: rest =>
    if c == 'T' || c == 't' then some rest
    else if isSpaceOrTab c then some (rest.dropWhile isSpaceOrTab)
    else none
  | [] => none

/-- The microseconds of a fraction, of which only six digits count, and what follows it. -/
def cutFraction : Text → Nat × Text
  | '.' :: rest =>
    let digits := leadingDigits rest
    let counting := digits.take 6
    (numberOf counting * Nat.pow 10 (6 - counting.length), rest.drop digits.length)
  | t => (0, t)

/-- The offset at the end of a time, in minutes, if the text has that form. -/
def offset? (t : Text) : Option (Option Int) :=
  if t.isEmpty then some none
  else
    match t.dropWhile isSpaceOrTab with
    | ['Z'] => some (some 0)
    | sign :: digits => do
      let negative ← if sign = '-' then some true else if sign = '+' then some false else none
      let (hours, rest) ← cutNumber? 1 2 digits
      let (minutes, rest) ← if rest.isEmpty then some (0, []) else (cutMark? ':' rest).bind (cutNumber? 2 2)
      let offset : Int := (hours * 60 + minutes : Nat)
      if rest.isEmpty then return some (if negative then -offset else offset) else none
    | [] => none

/-- The value, unless something is wrong with it. -/
def unlessFault (fault : Option DateFault) (value : Scalar) : Except ScalarFault Scalar :=
  match fault with
  | some fault => .error (.date fault)
  | none => .ok value

/-- The date or the time that a plain scalar has the form of. -/
def timestamp? (t : Text) : Option (Except ScalarFault Scalar) := do
  let (year, rest) ← cutNumber? 4 4 t
  let (month, rest) ← (cutMark? '-' rest).bind (cutNumber? 1 2)
  let (day, rest) ← (cutMark? '-' rest).bind (cutNumber? 1 2)
  let date : Date := ⟨year, month, day⟩
  if rest.isEmpty then
    if t.length = 10 then return unlessFault date.fault? (.date date) else none
  else
    let (hour, rest) ← (cutTimeMark? rest).bind (cutNumber? 1 2)
    let (minute, rest) ← (cutMark? ':' rest).bind (cutNumber? 2 2)
    let (second, rest) ← (cutMark? ':' rest).bind (cutNumber? 2 2)
    let (microsecond, rest) := cutFraction rest
    let offset ← offset? rest
    let time : DateTime := ⟨date, hour, minute, second, microsecond, offset⟩
    return unlessFault time.fault? (.dateTime time)

end SuiteRunner.Yaml
