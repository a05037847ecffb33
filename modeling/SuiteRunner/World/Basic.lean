import SuiteRunner.Engine.IntegerFault
import SuiteRunner.Number.Notation
import SuiteRunner.Text.UpperCase
import SuiteRunner.Text.Quoted
import SuiteRunner.World.Table

/-!
A small world of turtles with global variables, and the two passes of faults that its language knows: those of
the compiler and those of running code.
-/

namespace SuiteRunner

namespace World

/-- What an expression can be worth. Quotients that are whole are integers. -/
inductive Value where
  | int (n : Int)
  | bool (b : Bool)
  | float (x : Binary64)
  deriving DecidableEq, Repr

/-- The value as programs print it; a whole floating-point number is printed as the integer it is. -/
def Value.text : Value → Except Fault Text
  | int n => integerText n
  | bool b => .ok (if b then "true".toList else "false".toList)
  | float x =>
    match x.toInt? with
    | some n => integerText n
    | none => .ok x.text

/-- The integer that the text of the value spells, if it spells one. -/
def Value.toInt? : Value → Option Int
  | int n => some n
  | bool _ => none
  | float x => x.toInt?

/-- Why evaluation or execution stops before its end. -/
inductive Stop where
  | fault (fault : Fault)
  /-- Calls are nested more deeply than allowed. -/
  | tooDeep
  deriving DecidableEq, Repr

/-- The compiler turns something down. -/
def rejected (message : Text) : Stop :=
  .fault (.compiler message)

/-- Nothing has this name. -/
def nothingNamed (name : Text) : Fault :=
  .compiler ("Nothing named ".toList ++ name.toUpper ++ " has been defined.".toList)

/-- A primitive fails while an agent runs it. -/
def failed (message : Text) (agent : Agent) (primitive : Text) : Stop :=
  .fault (.execution message
    (message ++ "\nerror while ".toList ++ agent.name ++ " running ".toList ++ primitive))

/-- A failure of running code, seen from the caller of the procedure in which it came up. -/
def Stop.calledBy (name : Text) : Stop → Stop
  | fault (.execution message trace) =>
    fault (.execution message (trace ++ "\n  called by procedure ".toList ++ name.toUpper))
  | stop => stop

/-- As many characters of a bad literal are shown, quotes and escapes included. -/
def shownLiteralLength : Nat := 200

/-- The text is no integer literal. -/
def badInteger (t : Text) : Fault :=
  .foreign "ValueError".toList
    ("invalid literal for int() with base 10: ".toList ++ t.quoted.take shownLiteralLength)

/-- The text is taken for an integer and cannot be read as one. -/
def unreadInteger (t : Text) : IntegerFault → Fault
  | .noLiteral => badInteger t
  | .tooLong digits => tooLongLiteral digits

/-- The quotient of two integers lies outside the floating-point numbers. -/
def quotientTooLarge : Fault :=
  .foreign "OverflowError".toList "integer division result too large for a float".toList

/-- There is no procedure of this name. -/
def missingProcedure (name : Text) : Fault :=
  .foreign "KeyError".toList name.quoted

end World

/-- The state of a world. Procedures and reporters are kept as the text of their bodies. -/
structure World where
  turtles : Int := 0
  globals : Table World.Value := []
  procedures : Table Text := []
  reporters : Table Text := []
  disposed : Bool := false
  deriving DecidableEq, Repr

end SuiteRunner
