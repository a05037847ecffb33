import SuiteRunner.Engine.Basic

/-!
An engine that keeps a record of the calls made on it.
-/

namespace SuiteRunner

/-- A call on an engine. A start that fails is marked, since no run follows it. -/
inductive CallRecord where
  | start (mode : Mode) (owner : Text) (succeeded : Bool)
  | compile (source : Text)
  | compileCommand (text : Text) (agent : Agent)
  | execute (text : Text) (agent : Agent)
  | evaluate (text : Text) (agent : Agent)
  | openModel (path : Text)
  | dispose
  deriving DecidableEq, Repr

/-- The call, which also puts an entry at the end of the record. -/
def Call.recording {σ α : Type} (entry : CallRecord) (call : Call σ α) : Call (σ × List CallRecord) α :=
  fun (s, record) =>
    let (answer, s) := call s
    (answer, s, record ++ [entry])

/-- The same engine with a record of its calls in the state. -/
def Engine.recorded {σ : Type} (engine : Engine σ) : Engine (σ × List CallRecord) where
  start mode owner := fun (s, record) =>
    let (answer, s) := engine.start mode owner s
    (answer, s, record ++ [.start mode owner answer.isOk])
  compile source := Call.recording (.compile source) (engine.compile source)
  compileCommand text agent := Call.recording (.compileCommand text agent) (engine.compileCommand text agent)
  execute text agent := Call.recording (.execute text agent) (engine.execute text agent)
  evaluate text agent := Call.recording (.evaluate text agent) (engine.evaluate text agent)
  openModel path := Call.recording (.openModel path) (engine.openModel path)
  dispose := Call.recording .dispose engine.dispose

end SuiteRunner
