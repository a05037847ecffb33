import SuiteRunner.Engine.Basic

/-!
An engine that answers from a script, for trying out the runner itself. Commands outside the script succeed and
expressions outside it have the value 0.
-/

namespace SuiteRunner

/-- What the script has ready for a text. -/
inductive ScriptEntry where
  | answer (value : Text)
  | fault (fault : Fault)
  deriving DecidableEq, Repr

/-- How an engine behaves in one mode: its entries by text, and the faults of starting and disposing. -/
structure Script where
  entries : List (Text × ScriptEntry) := []
  start : Option Fault := none
  dispose : Option Fault := none

namespace Script

/-- The fault if there is one. -/
def raise : Option Fault → Except Fault Unit
  | none => .ok ()
  | some fault => .error fault

/-- The value scripted for the text, or the default. -/
def answer (script : Script) (t default : Text) : Except Fault Text :=
  match script.entries.lookup t with
  | none => .ok default
  | some (.answer value) => .ok value
  | some (.fault fault) => .error fault

/-- A check raises nothing but compiler faults. -/
def check (script : Script) (t : Text) : Except Fault Unit :=
  match script.entries.lookup t with
  | some (.fault fault) => if (fault.announced .compilerError).isSome then .error fault else .ok ()
  | _ => .ok ()

end Script

/-- The engine whose state is the mode of the current run. -/
def Engine.scripted (script : Mode → Script) : Engine Mode where
  start mode _ := fun _ => (Script.raise (script mode).start, mode)
  compile source := fun mode => (((script mode).answer source []).map fun _ => (), mode)
  compileCommand t _ := fun mode => ((script mode).check t, mode)
  execute t _ := fun mode => (((script mode).answer t []).map fun _ => (), mode)
  evaluate t _ := fun mode => ((script mode).answer t ['0'], mode)
  openModel path := fun mode => (((script mode).answer path []).map fun _ => (), mode)
  dispose := fun mode => (Script.raise (script mode).dispose, mode)

end SuiteRunner
