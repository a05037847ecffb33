import SuiteRunner.Location

/-!
Why a test file is not accepted.
-/

namespace SuiteRunner

namespace ParseError

inductive Cause where
  /-- A fault given by its wording. -/
  | other (message : Text)
  /-- No rule of the grammar matches the line. -/
  | unrecognizedLine (line : Text)
  /-- The letter before the mark `>` stands for no agent. -/
  | unrecognizedAgent (code : Text)
  /-- A command expects an outcome that starts with none of the keywords. -/
  | missingKeyword (outcome : Text)
  /-- A statement stands before the first test. -/
  | orphanLine (line : Text)
  deriving DecidableEq, Repr

def Cause.message : Cause → Text
  | other message => message
  | unrecognizedLine line => "unrecognized line: ".toList ++ line
  | unrecognizedAgent code => "unrecognized agent type: ".toList ++ code
  | missingKeyword outcome => "error keyword missing after '=>': ".toList ++ outcome
  | orphanLine line => "statement outside of any test: ".toList ++ line.trim

end ParseError

/-- A cause, and the place where it lies once that is known. -/
structure ParseError where
  cause : ParseError.Cause
  location : Option Location := none
  deriving DecidableEq, Repr

namespace ParseError

/-- Gives the error a place unless it has one. -/
def locate (e : ParseError) (location : Location) : ParseError :=
  { e with location := e.location.or (some location) }

def text (e : ParseError) : Text :=
  match e.location with
  | none => e.cause.message
  | some location => location.text ++ ": ".toList ++ e.cause.message

end ParseError

end SuiteRunner
