import SuiteRunner.Text.Basic

/-!
Dates of the years 1 to 9999, and times of day on them. A time may have an offset from universal time; two times
with offsets are the same if they are at the same instant.
-/

namespace SuiteRunner

structure Date where
  year : Nat
  month : Nat
  day : Nat
  deriving DecidableEq, Repr

/-- A time of day on a date. The offset from universal time is in minutes. -/
structure DateTime where
  date : Date
  hour : Nat
  minute : Nat
  second : Nat
  microsecond : Nat
  offset : Option Int
  deriving DecidableEq, Repr

/-- Why numbers make up no date or no time. -/
inductive DateFault where
  | year (year : Nat)
  | month
  | day
  | hour
  | minute
  | second
  /-- The offset is a day or more. -/
  | offset (minutes : Int)
  deriving DecidableEq, Repr

/-- A length of time in minutes, in writing: whole days, and the seconds that are left, which are never negative. -/
def durationText (minutes : Int) : Text :=
  let days := minutes / 1440
  let seconds := minutes % 1440 * 60
  let parts := (if days = 0 then [] else ["days=".toList ++ Text.ofInt days]) ++
    (if seconds = 0 then [] else ["seconds=".toList ++ Text.ofInt seconds])
  "datetime.timedelta(".toList ++ (if parts.isEmpty then ['0'] else List.intercalate ", ".toList parts) ++ [')']

def DateFault.message : DateFault → Text
  | year n => "year ".toList ++ Text.ofNat n ++ " is out of range".toList
  | month => "month must be in 1..12".toList
  | day => "day is out of range for month".toList
  | hour => "hour must be in 0..23".toList
  | minute => "minute must be in 0..59".toList
  | second => "second must be in 0..59".toList
  | offset minutes =>
    "offset must be a timedelta strictly between -timedelta(hours=24) and timedelta(hours=24), not ".toList ++
      durationText minutes ++ ['.']

namespace Date

def isLeapYear (year : Nat) : Bool :=
  year % 4 = 0 ∧ (year % 100 ≠ 0 ∨ year % 400 = 0)

/-- The number of days in a month. -/
def daysIn (year month : Nat) : Nat :=
  if month = 2 then (if isLeapYear year then 29 else 28)
  else if [4, 6, 9, 11].contains month then 30
  else 31

/-- What is wrong with the numbers of a date. -/
def fault? (d : Date) : Option DateFault :=
  if d.year = 0 ∨ 9999 < d.year then some (.year d.year)
  else if d.month = 0 ∨ 12 < d.month then some .month
  else if d.day = 0 ∨ daysIn d.year d.month < d.day then some .day
  else none

/-- The number of days up to the date, from the first day of the year 1. -/
def dayNumber (d : Date) : Nat :=
  let years := d.year - 1
  let months := (List.range d.month).drop 1
  let before := months.foldl (fun days month => days + daysIn d.year month) 0
  years * 365 + years / 4 - years / 100 + years / 400 + before + d.day

/-- The date in writing, with four digits for the year and two for month and day. -/
def text (d : Date) : Text :=
  Text.ofNatPadded 4 d.year ++ '-' :: Text.ofNatPadded 2 d.month ++ '-' :: Text.ofNatPadded 2 d.day

end Date

namespace DateTime

/-- What is wrong with the numbers of a time; the offset counts first. -/
def fault? (t : DateTime) : Option DateFault :=
  match t.offset.filter fun minutes => 1440 ≤ minutes.natAbs with
  | some minutes => some (.offset minutes)
  | none =>
    t.date.fault?.or
      (if 24 ≤ t.hour then some .hour
      else if 60 ≤ t.minute then some .minute
      else if 60 ≤ t.second then some .second
      else none)

/-- Microseconds up to the time, seen from a place with the offset, by universal time. -/
def instant (t : DateTime) (offset : Int) : Int :=
  let minutes : Int := (t.date.dayNumber * 1440 + t.hour * 60 + t.minute : Nat)
  ((minutes - offset) * 60 + t.second) * 1000000 + t.microsecond

/-- Whether two times are the same. A time with an offset is never the same as one without. -/
def isSame (s t : DateTime) : Bool :=
  match s.offset, t.offset with
  | none, none => s = t
  | some a, some b => s.instant a = t.instant b
  | _, _ => false

/-- The offset in writing: a sign, hours and minutes. -/
def offsetText (minutes : Int) : Text :=
  (if minutes < 0 then '-' else '+') ::
    Text.ofNatPadded 2 (minutes.natAbs / 60) ++ ':' :: Text.ofNatPadded 2 (minutes.natAbs % 60)

/-- The time in writing. Microseconds and the offset are shown if there are any. -/
def text (t : DateTime) : Text :=
  t.date.text ++ ' ' :: Text.ofNatPadded 2 t.hour ++ ':' :: Text.ofNatPadded 2 t.minute ++
    ':' :: Text.ofNatPadded 2 t.second ++
    (if t.microsecond = 0 then [] else '.' :: Text.ofNatPadded 6 t.microsecond) ++
    ((t.offset.map offsetText).getD [])

end DateTime

end SuiteRunner
