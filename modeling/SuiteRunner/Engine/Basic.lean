import SuiteRunner.Engine.Fault
import SuiteRunner.Mode

/-!
Engines: what runs the statements of a test. An engine is given by its calls; each takes the state and returns
an answer or a fault together with the next state, so that a call that fails may still have changed something.
-/

namespace SuiteRunner

/-- A call on a state. -/
abbrev Call (σ α : Type) := σ → Except Fault α × σ

structure Engine (σ : Type) where
  /-- Makes ready for one run of the test of this full name. -/
  start : Mode → Text → Call σ Unit
  /-- Replaces all procedures by those of the source. -/
  compile : Text → Call σ Unit
  /-- Checks a command without running it. -/
  compileCommand : Text → Agent → Call σ Unit
  execute : Text → Agent → Call σ Unit
  /-- The text of an expression's value. -/
  evaluate : Text → Agent → Call σ Text
  openModel : Text → Call σ Unit
  /-- Ends the run. -/
  dispose : Call σ Unit

end SuiteRunner
