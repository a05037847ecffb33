import SuiteRunner.Data.Basic
import SuiteRunner.Engine.IntegerFault
import SuiteRunner.Number.Notation
import SuiteRunner.Text.Quoted

/-!
Data in writing, as messages quote them: texts are quoted, lists stand in brackets and maps in braces. Data with an
integer of too many digits cannot be written.
-/

namespace SuiteRunner

/-- The opening and the closing brace. -/
def inBraces (t : Text) : Text :=
  Char.ofNat 0x7B :: t ++ [Char.ofNat 0x7D]

def inBrackets (t : Text) : Text :=
  '[' :: t ++ [']']

/-- The texts with a comma and a space between neighbours. -/
def commaSeparated (ts : List Text) : Text :=
  List.intercalate ", ".toList ts

def Date.written (d : Date) : Text :=
  "datetime.date(".toList ++ commaSeparated [Text.ofNat d.year, Text.ofNat d.month, Text.ofNat d.day] ++ [')']

/-- An offset from universal time, in minutes. -/
def writtenOffset (minutes : Int) : Text :=
  if minutes = 0 then "datetime.timezone.utc".toList
  else "datetime.timezone(".toList ++ durationText minutes ++ [')']

/-- Seconds are left out if they and the microseconds are zero, and so are microseconds of zero. -/
def DateTime.written (t : DateTime) : Text :=
  let numbers := [t.date.year, t.date.month, t.date.day, t.hour, t.minute] ++
    (if t.microsecond ≠ 0 then [t.second, t.microsecond] else if t.second ≠ 0 then [t.second] else [])
  let offset := match t.offset with
    | none => []
    | some minutes => ["tzinfo=".toList ++ writtenOffset minutes]
  "datetime.datetime(".toList ++ commaSeparated (numbers.map Text.ofNat ++ offset) ++ [')']

def Scalar.written : Scalar → Except Fault Text
  | null => .ok "None".toList
  | bool b => .ok (if b then "True".toList else "False".toList)
  | int n => integerText n
  | float x => .ok x.text
  | text t => .ok t.quoted
  | date d => .ok d.written
  | dateTime t => .ok t.written
  | other _ t _ => .ok t

mutual

def Data.written : Data → Except Fault Text
  | .scalar s => s.written
  | .list items => (writtenItems items).map fun ts => inBrackets (commaSeparated ts)
  | .map fields => (writtenFields fields).map fun ts => inBraces (commaSeparated ts)

def writtenItems : List Data → Except Fault (List Text)
  | [] => .ok []
  | item :: rest => do
    let first ← item.written
    let others ← writtenItems rest
    return first :: others

def writtenFields : List (Scalar × Data) → Except Fault (List Text)
  | [] => .ok []
  | (key, value) :: rest => do
    let name ← key.written
    let value ← value.written
    let others ← writtenFields rest
    return (name ++ ": ".toList ++ value) :: others

end

end SuiteRunner
