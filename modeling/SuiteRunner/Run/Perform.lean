import SuiteRunner.Engine.Basic
import SuiteRunner.Run.Result

/-!
Performing one statement on an engine, judging what comes of it, and telling what is wrong with it.
-/

namespace SuiteRunner

/-- What a fault of a statement is reported as, unless it cannot be told. -/
def FailureCause.ofFault (fault : Fault) : Except Fault FailureCause :=
  match fault.mismatched with
  | some texts => texts.map fun (expected, actual) => .mismatch expected actual
  | none => fault.describe.map .unexpected

/-- Nothing but success will do. -/
def judgeSuccess {α : Type} (answer : Except Fault α) : Except Fault Unit :=
  answer.map fun _ => ()

/-- The expected and the actual text agree. -/
def judgeText (expected actual : Text) : Except Fault Unit :=
  if actual = expected then .ok () else .error (.mismatch expected actual)

/-- What is said where the announced failure stays away. -/
def Keyword.absence : Keyword → Text
  | compilerError => "compiled without error".toList
  | _ => "no error".toList

/-- A failure of the class that the keyword announces is expected, with this text. -/
def judgeAnnounced {α : Type} (keyword : Keyword) (expected : Text) : Except Fault α → Except Fault Unit
  | .ok _ => .error (.mismatch (keyword.write expected) keyword.absence)
  | .error fault =>
    match fault.announced keyword with
    | none => .error fault
    | some reading => reading.bind (judgeText expected)

/-- How what came of a command agrees with what was expected. -/
def CommandOutcome.judge {α : Type} : CommandOutcome → Except Fault α → Except Fault Unit
  | success => judgeSuccess
  | error message => judgeAnnounced .error message
  | compileError message => judgeAnnounced .compilerError message
  | stackTrace trace => judgeAnnounced .stackTrace trace

/-- How the value of an expression agrees with what was expected. -/
def ExpressionOutcome.judge : ExpressionOutcome → Except Fault Text → Except Fault Unit
  | result value => fun actual => actual.bind (judgeText value)
  | error message => judgeAnnounced .error message
  | stackTrace trace => judgeAnnounced .stackTrace trace

/-- The sources that stand after the statement: a definition adds its own. -/
def Statement.addSource (sources : List Text) : Statement → List Text
  | .definition source => sources ++ [source]
  | _ => sources

/-- Performs the statement. A definition is compiled together with all that were given before; a command of
which a compile error is expected is checked and never run; expressions are evaluated by the observer. -/
def Engine.perform {σ : Type} (engine : Engine σ) (sources : List Text) :
    Statement → σ → Except Fault Unit × σ
  | .openModel path, s =>
    let (answer, s) := engine.openModel path s
    (judgeSuccess answer, s)
  | .definition source, s =>
    let (answer, s) := engine.compile (Text.unlines (sources ++ [source])) s
    (judgeSuccess answer, s)
  | .command agent text expected, s =>
    let call := match expected with
      | .compileError _ => engine.compileCommand text agent
      | _ => engine.execute text agent
    let (answer, s) := call s
    (expected.judge answer, s)
  | .expression text expected, s =>
    let (answer, s) := engine.evaluate text .observer s
    (expected.judge answer, s)

end SuiteRunner
