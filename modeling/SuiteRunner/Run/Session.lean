import SuiteRunner.Run.Eligibility
import SuiteRunner.Run.Log
import SuiteRunner.Run.Perform
import SuiteRunner.Statement.Record

/-!
Running tests. Each run of a test in a mode starts the engine anew and disposes of it, however the run ends. The
first element that misbehaves ends the run, and its fault goes into the report; a fault that cannot be told ends
the session.
-/

namespace SuiteRunner

/-- A value together with the log it took and the state after it. -/
structure Logged (σ α : Type) where
  value : α
  log : Log
  state : σ

/-- What goes on where the first has come to a value. -/
def Logged.andThen {σ α β : Type} (first : Logged σ (Except Fault α)) (next : α → σ → Logged σ (Except Fault β)) :
    Logged σ (Except Fault β) :=
  match first.value with
  | .error raised => ⟨.error raised, first.log, first.state⟩
  | .ok value =>
    let second := next value first.state
    ⟨second.value, first.log ++ second.log, second.state⟩

/-- How the elements of a test came off. -/
inductive Ending where
  | completed
  | failed (failure : Failure)
  /-- There is no failure to tell of: an object that is no statement came up, or a fault cannot be told. -/
  | raised (fault : Fault)
  deriving DecidableEq, Repr

/-- The ending at this place, by the cause if it can be told. -/
def Ending.told (index : Nat) (source : Text) : Except Fault FailureCause → Ending
  | .ok cause => failed ⟨index, source, cause⟩
  | .error fault => raised fault

/-- The failure of a run outside its statements. -/
def Failure.outside (source : Text) (fault : Fault) : Except Fault Failure :=
  fault.describe.map fun text => ⟨0, source, .unexpected text⟩

/-- Where a failure to start or to dispose lies. -/
def setupSource : Text :=
  "runtime setup/teardown".toList

/-- Where a failure of the first compilation lies. -/
def definitionsSource : Text :=
  "procedure definitions".toList

/-- What is said of an object that is no statement. -/
def notAStatement : Fault :=
  .foreign "TypeError".toList "not a statement: NoneType".toList

/-- The element as the log shows it. -/
def Element.record : Element → Text
  | none => "None".toList
  | some statement => statement.record

namespace Engine

variable {σ : Type} (engine : Engine σ)

/-- Performs elements in order, the first of which has the given number, up to one that misbehaves. -/
def performAll (fullName : Text) : Nat → List Text → List Element → σ → Logged σ Ending
  | _, _, [], s => ⟨.completed, [], s⟩
  | number, sources, element :: rest, s =>
    let record : LogRecord :=
      ⟨.debug, fullName ++ ": statement ".toList ++ Text.ofNat number ++ ": ".toList ++ Element.record element⟩
    match element with
    | none => ⟨.raised notAStatement, [record], s⟩
    | some statement =>
      match engine.perform sources statement s with
      | (.error fault, s) => ⟨.told number statement.source (FailureCause.ofFault fault), [record], s⟩
      | (.ok (), s) =>
        let next := performAll fullName (number + 1) (statement.addSource sources) rest s
        ⟨next.value, record :: next.log, next.state⟩

/-- Compiles the definitions of the test and performs its elements. -/
def performTest (test : TestCase) (s : σ) : Logged σ Ending :=
  match engine.compile test.definitions s with
  | (.error fault, s) => ⟨.told 0 definitionsSource (fault.describe.map .unexpected), [], s⟩
  | (.ok (), s) =>
    let sources := if test.definitions.isEmpty then [] else [test.definitions]
    engine.performAll test.fullName 1 sources test.executable s

/-- The failure that a run ends with. A failure of the test itself counts before one of the disposal, which must be
told all the same, and that before a fault which the test raised. -/
def failureAfter (ending : Ending) (disposal : Except Fault Unit) : Except Fault (Option Failure) :=
  match ending, disposal with
  | .failed failure, .ok () => .ok (some failure)
  | .failed failure, .error fault => fault.leavingScope.describe.map fun _ => some failure
  | _, .error fault => (Failure.outside setupSource fault.leavingScope).map some
  | .raised fault, .ok () => (Failure.outside setupSource fault).map some
  | .completed, .ok () => .ok none

/-- What the log says of a disposal that failed after the test had. -/
def disposalLog (title : Text) : Ending → Except Fault Unit → Log
  | .failed _, .error fault =>
    match fault.leavingScope.describe with
    | .ok text => [⟨.warning, title ++ ": teardown also failed: ".toList ++ text⟩]
    | .error _ => []
  | _, _ => []

/-- Runs the test up to the failure it ends with, if any: starts the engine, performs the test, disposes. -/
def attempt (test : TestCase) (mode : Mode) (s : σ) : Logged σ (Except Fault (Option Failure)) :=
  match engine.start mode test.fullName s with
  | (.error fault, s) => ⟨(Failure.outside setupSource fault.leavingScope).map some, [], s⟩
  | (.ok (), s) =>
    let run := engine.performTest test s
    let (disposal, s) := engine.dispose run.state
    ⟨failureAfter run.value disposal, run.log ++ disposalLog (runTitle test.fullName mode) run.value disposal, s⟩

/-- The result of a run that ended with the failure, if any, and what the log says of it. -/
def conclude (test : TestCase) (mode : Mode) (failure : Option Failure) (s : σ) : Logged σ (Except Fault RunResult) :=
  match failure with
  | none => ⟨.ok ⟨test.fullName, mode, .passed⟩, [], s⟩
  | some failure =>
    ⟨.ok ⟨test.fullName, mode, .failed failure⟩,
      [⟨.warning, runTitle test.fullName mode ++ " failed: ".toList ++ failure.text⟩], s⟩

/-- Runs the test once in the mode. -/
def runInMode (test : TestCase) (mode : Mode) (s : σ) : Logged σ (Except Fault RunResult) :=
  let run := (engine.attempt test mode s).andThen (conclude test mode)
  { run with log := ⟨.info, "running ".toList ++ runTitle test.fullName mode⟩ :: run.log }

/-- Runs the test in these modes, one after the other. -/
def runInModes (test : TestCase) : List Mode → σ → Logged σ (Except Fault Report)
  | [], s => ⟨.ok [], [], s⟩
  | mode :: rest, s =>
    (engine.runInMode test mode s).andThen fun result s =>
      let others := runInModes test rest s
      { others with value := others.value.map (result :: ·) }

/-- Runs the test in all its modes, or skips it in all of them if it does not apply. -/
def runTest (env : Environment) (test : TestCase) (s : σ) : Logged σ (Except Fault Report) :=
  if test.applies env then engine.runInModes test test.modes s
  else
    ⟨.ok (test.modes.map fun mode => ⟨test.fullName, mode, .skipped⟩),
      [⟨.info, "skipping ".toList ++ test.fullName ++ " (not applicable to ".toList ++ env.describe ++ [')']⟩], s⟩

/-- Runs tests in order. -/
def runTests (env : Environment) : List TestCase → σ → Logged σ (Except Fault Report)
  | [], s => ⟨.ok [], [], s⟩
  | test :: rest, s =>
    (engine.runTest env test s).andThen fun results s =>
      let others := runTests env rest s
      { others with value := others.value.map (results ++ ·) }

end Engine

/-- Whether a session restricted to a name includes the test: by its name or by its full name. -/
def TestCase.isSelected (only : Option Text) (test : TestCase) : Bool :=
  match only with
  | none => true
  | some name => name == test.name || name == test.fullName

/-- The tests of a session, in the order of the suites. -/
def selectedTests (only : Option Text) (suites : List Suite) : List TestCase :=
  (suites.flatMap (·.tests)).filter (TestCase.isSelected only)

/-- Runs the tests of the suites in order, or those that have the given name. -/
def Engine.runSuites {σ : Type} (engine : Engine σ) (env : Environment) (only : Option Text)
    (suites : List Suite) (s : σ) : Logged σ (Except Fault Report) :=
  engine.runTests env (selectedTests only suites) s

end SuiteRunner
