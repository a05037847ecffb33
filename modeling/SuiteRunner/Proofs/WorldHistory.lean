import SuiteRunner.Proofs.AgentContext
import SuiteRunner.Proofs.StatementCalls

/-!
# Worlds with a past

A world that is in use has been changed by the calls made on it, those that failed included. What holds of a new world
and is kept by definitions, by a new model, by the end of a run and by every primitive holds of every world with a past.
-/

namespace SuiteRunner.Proofs
open World

/-- The engine of worlds in which calls of procedures and reporters are nested less deeply than the given depth. -/
def engineWithin (depth : Nat) : Engine World :=
  { Engine.world with
    execute := fun t agent w => ((execute depth t agent w).1.mapError Stop.toFault, (execute depth t agent w).2)
    evaluate := fun t agent w => ((evaluate depth t agent w).mapError Stop.toFault, w) }

/-- Calls in the order in which they are made. How deeply a call may nest others is no part of the call, and may be
different for each. -/
abbrev History := List (Nat × CallRecord)

def afterCall (depth : Nat) (call : CallRecord) (w : World) : World :=
  (makeCall (engineWithin depth) call w).2

/-- The world after the calls, whatever was answered to them. -/
def afterCalls (history : History) (w : World) : World :=
  history.foldl (fun w entry => afterCall entry.1 entry.2 w) w

section Keeping

variable {P : World → Prop}

lemma afterCall_keeps (hnew : P {}) (hcompile : ∀ source w, P w → P (compile source w).2)
    (hopen : ∀ path w, P w → P (openModel path w).2) (hdispose : ∀ w, P w → P { w with disposed := true })
    {depth : Nat} {call : CallRecord} {w : World}
    (hexecute : ∀ t agent, call = .execute t agent → P (execute depth t agent w).2) (hw : P w) :
    P (afterCall depth call w) := by
  cases call with
  | start mode owner succeeded => exact hnew
  | compile source => exact hcompile source w hw
  | compileCommand t agent => exact hw
  | execute t agent => exact hexecute t agent rfl
  | evaluate t agent => exact hw
  | openModel path => exact hopen path w hw
  | dispose => exact hdispose w hw

lemma execute_keeps (hprimitive : ∀ agent depth p rest w, P w → P (runPrimitive agent depth p rest w).2)
    (depth : Nat) (t : Text) (agent : Agent) {w : World} (hw : P w) : P (execute depth t agent w).2 := by
  have hrelated : P w → P (execute depth t agent w).2 :=
    execute_related (R := fun a b => P a → P b) (fun _ h => h) (fun hab hbc h => hbc (hab h))
      fun p _ d rest w => hprimitive agent d p rest w
  exact hrelated hw

theorem afterCalls_keeps (hnew : P {}) (hcompile : ∀ source w, P w → P (compile source w).2)
    (hopen : ∀ path w, P w → P (openModel path w).2) (hdispose : ∀ w, P w → P { w with disposed := true })
    (hprimitive : ∀ agent depth p rest w, P w → P (runPrimitive agent depth p rest w).2) (history : History)
    {w : World} (hw : P w) : P (afterCalls history w) := by
  induction history generalizing w with
  | nil => exact hw
  | cons entry history ih =>
    apply ih
    apply afterCall_keeps hnew hcompile hopen hdispose _ hw
    exact fun t agent _ => execute_keeps hprimitive entry.1 t agent hw

end Keeping

end SuiteRunner.Proofs
