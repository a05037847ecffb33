import SuiteRunner.Data.Basic

/-!
Schemas: what is demanded of data, and the violations that are found in them. A demand that speaks of one kind of
data says nothing of the others.
-/

namespace SuiteRunner

/-- The kinds of data that a schema can demand. -/
inductive DataKind where
  | object
  | array
  | string
  | boolean
  deriving DecidableEq, Repr

namespace DataKind

def name : DataKind → Text
  | object => "object".toList
  | array => "array".toList
  | string => "string".toList
  | boolean => "boolean".toList

def holds : DataKind → Data → Bool
  | object, .map _ => true
  | array, .list _ => true
  | string, .scalar (.text _) => true
  | boolean, .scalar (.bool _) => true
  | _, _ => false

end DataKind

/-- A form of text: how it is written, and which texts have it. -/
structure Pattern where
  source : Text
  holds : Text → Bool

inductive Demand where
  | kind (kind : DataKind)
  | pattern (pattern : Pattern)
  /-- A text or a list must not be empty. -/
  | nonempty (kind : DataKind)
  /-- The data must be one of these texts. -/
  | oneOf (values : List Text)
  | required (names : List Text)
  /-- No other names than these may occur. -/
  | closed (names : List Text)
  /-- What is demanded of the value under each name that occurs. -/
  | properties (properties : List (Text × List Demand))
  /-- What is demanded of each item. -/
  | items (demands : List Demand)

abbrev Schema := List Demand

/-- A step from data to a part of them. -/
inductive DataStep where
  | name (t : Text)
  | index (n : Nat)
  deriving DecidableEq, Repr

def DataStep.text : DataStep → Text
  | name t => t
  | index n => Text.ofNat n

structure Violation where
  path : List DataStep
  message : Text
  deriving DecidableEq, Repr

namespace Violation

/-- The same violation, seen from data that have the violating ones as a part. -/
def under (step : DataStep) (v : Violation) : Violation :=
  { v with path := step :: v.path }

/-- The steps to the place, if there are any, and the message. -/
def text (v : Violation) : Text :=
  if v.path.isEmpty then v.message
  else List.intercalate " -> ".toList (v.path.map DataStep.text) ++ ": ".toList ++ v.message

/-- Violations are ordered by the steps to their places, as texts. -/
def le (v w : Violation) : Bool :=
  Text.listLe (v.path.map DataStep.text) (w.path.map DataStep.text)

end Violation

end SuiteRunner
