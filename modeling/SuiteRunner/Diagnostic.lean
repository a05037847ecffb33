import SuiteRunner.Location

/-!
What there is to say about the files that were read, in the order in which it was found.
-/

namespace SuiteRunner

inductive Severity where
  | error
  | warning
  | info
  deriving DecidableEq, Repr

namespace Severity

def text : Severity → Text
  | error => "error".toList
  | warning => "warning".toList
  | info => "info".toList

/-- The severity of a given name. -/
def ofText? (t : Text) : Option Severity :=
  [error, warning, info].find? (·.text == t)

end Severity

structure Diagnostic where
  severity : Severity
  message : Text
  location : Option Location := none
  notes : List Text := []
  deriving DecidableEq, Repr

/-- The place if there is one, the severity and the message, then a line for each note. -/
def Diagnostic.text (d : Diagnostic) : Text :=
  let place := match d.location with
    | none => []
    | some location => location.text ++ ": ".toList
  place ++ d.severity.text ++ ": ".toList ++ d.message ++
    d.notes.flatMap fun note => "\n  note: ".toList ++ note

/-- Diagnostics in the order of their arrival. -/
abbrev Diagnostics := List Diagnostic

namespace Diagnostics

def add (ds : Diagnostics) (d : Diagnostic) : Diagnostics :=
  ds ++ [d]

def count (ds : Diagnostics) (severity : Severity) : Nat :=
  ds.countP (·.severity == severity)

def hasErrors (ds : Diagnostics) : Bool :=
  ds.any (·.severity == .error)

def text (ds : Diagnostics) : Text :=
  Text.unlines (ds.map Diagnostic.text)

theorem hasErrors_eq (ds : Diagnostics) : ds.hasErrors = decide (0 < ds.count .error) := by
  induction ds with
  | nil => rfl
  | cons d ds ih => by_cases h : d.severity == .error <;> simp_all [hasErrors, count]

end Diagnostics

end SuiteRunner
