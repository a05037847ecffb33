import SuiteRunner.Data.Date
import SuiteRunner.Number.Binary64

/-!
Data as configuration files hold them: scalars, lists, and maps whose keys are scalars. No data are a part of
themselves.
-/

namespace SuiteRunner

inductive Scalar where
  | null
  | bool (b : Bool)
  | int (n : Int)
  | float (x : Binary64)
  | text (t : Text)
  | date (d : Date)
  | dateTime (t : DateTime)
  /-- A value of any other kind: the name of the kind, how the value is written, and whether it is empty. -/
  | other (kind text : Text) (isEmpty : Bool)
  deriving DecidableEq, Repr

namespace Scalar

/-- The integer that the scalar counts as, if it counts as one. Truth values count as one and zero. -/
def integer? : Scalar → Option Int
  | bool b => some (if b then 1 else 0)
  | int n => some n
  | float x => x.toInt?
  | _ => none

/-- Whether two scalars are the same as keys: numbers if they have the same value, times if they are the same. -/
def isSameKey (a b : Scalar) : Bool :=
  match a, b with
  | dateTime s, dateTime t => s.isSame t
  | a, b =>
    match a.integer?, b.integer? with
    | some m, some n => m = n
    | none, none => a = b
    | _, _ => false

end Scalar

/-- The fields of a map are in the order in which the keys first appeared. -/
inductive Data where
  | scalar (s : Scalar)
  | list (items : List Data)
  | map (fields : List (Scalar × Data))

namespace Data

def null : Data :=
  scalar .null

/-- Gives the key a value. If there is a key like it, that key and its place stay. -/
def putField (key : Scalar) (value : Data) : List (Scalar × Data) → List (Scalar × Data)
  | [] => [(key, value)]
  | field :: rest =>
    if field.1.isSameKey key then (field.1, value) :: rest else field :: putField key value rest

/-- The value under a name, if the data are a map and have one. -/
def field? (data : Data) (name : Text) : Option Data :=
  match data with
  | map fields => fields.lookup (.text name)
  | _ => none

def text? : Data → Option Text
  | scalar (.text t) => some t
  | _ => none

/-- Whether the data count as true: zero, null, falsehood and all that is empty do not. -/
def isTrue : Data → Bool
  | scalar .null => false
  | scalar (.bool b) => b
  | scalar (.int n) => n != 0
  | scalar (.float (.finite _ mantissa _)) => mantissa != 0
  | scalar (.float _) => true
  | scalar (.text t) => ! t.isEmpty
  | scalar (.date _) => true
  | scalar (.dateTime _) => true
  | scalar (.other _ _ isEmpty) => ! isEmpty
  | list items => ! items.isEmpty
  | map fields => ! fields.isEmpty

/-- The name of the kind of data. -/
def kind : Data → Text
  | scalar .null => "NoneType".toList
  | scalar (.bool _) => "bool".toList
  | scalar (.int _) => "int".toList
  | scalar (.float _) => "float".toList
  | scalar (.text _) => "str".toList
  | scalar (.date _) => "date".toList
  | scalar (.dateTime _) => "datetime".toList
  | scalar (.other kind _ _) => kind
  | list _ => "list".toList
  | map _ => "dict".toList

end Data

end SuiteRunner
