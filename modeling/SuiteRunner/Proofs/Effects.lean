import SuiteRunner.Proofs.AgentContext

/-!
# What commands have done

A run is told by the effects of the primitives that came to their end, one after the other, and by how it stopped. A
primitive that does not come to its end has no effect. The main statement is that an execution takes its turns with
certain effects and a certain end exactly if the world after it is the one before it with these effects.
-/

namespace SuiteRunner.Proofs
open World

/-- What a primitive has done when it has come to its end. -/
inductive Effect where
  | created (turtles : Int)
  | died
  | cleared
  | assigned (name : Text) (value : Value)
  deriving DecidableEq

def Effect.apply : Effect → World → World
  | created n, w => { w with turtles := w.turtles + n }
  | died, w => { w with turtles := w.turtles - 1 }
  | cleared, w => { w with turtles := 0, globals := [] }
  | assigned name value, w => { w with globals := w.globals.put name value }

def applyAll (effects : List Effect) (w : World) : World :=
  effects.foldl (fun w effect => effect.apply w) w

/-- The primitive, with what follows its name, comes to its end. -/
inductive Does (agent : Agent) (depth : Nat) (w : World) : Primitive → Text → Effect → Prop
  | created {rest t : Text} {v : Value} {n : Int} (value : w.value agent depth rest = .ok v)
      (written : v.text = .ok t) (whole : v.toInt? = some n) : Does agent depth w .createTurtles rest (.created n)
  | died {rest : Text} : Does agent depth w .die rest .died
  | cleared {rest : Text} : Does agent depth w .clearAll rest .cleared
  | assigned {rest : Text} {v : Value} (value : w.value agent depth (rest.cutAt ' ').2 = .ok v) :
      Does agent depth w .set rest (.assigned (rest.cutAt ' ').1 v)

inductive Fails (agent : Agent) (depth : Nat) (w : World) : Primitive → Text → Stop → Prop
  | amount {rest : Text} {stop : Stop} (value : w.value agent depth rest = .error stop) :
      Fails agent depth w .createTurtles rest stop
  | unwritten {rest : Text} {v : Value} {fault : Fault} (value : w.value agent depth rest = .ok v)
      (unwritten : v.text = .error fault) : Fails agent depth w .createTurtles rest (.fault fault)
  | notWhole {rest t : Text} {v : Value} (value : w.value agent depth rest = .ok v) (written : v.text = .ok t)
      (fraction : v.toInt? = none) : Fails agent depth w .createTurtles rest (.fault (badInteger t))
  | assignment {rest : Text} {stop : Stop} (value : w.value agent depth (rest.cutAt ' ').2 = .error stop) :
      Fails agent depth w .set rest stop
  | error {rest : Text} : Fails agent depth w .error rest (failed rest agent "ERROR".toList)

/-- The agent performs the commands from this world, with these effects, and it ends in this way. -/
inductive Performs (agent : Agent) : Nat → List Text → World → List Effect → Except Stop Unit → Prop
  | done {depth : Nat} {w : World} : Performs agent depth [] w [] (.ok ())
  | primitive {depth : Nat} {command : Text} {rest : List Text} {w : World} {p : Primitive} {effect : Effect}
      {effects : List Effect} {ended : Except Stop Unit} (name : Primitive.ofText? (command.cutAt ' ').1 = some p)
      (does : Does agent depth w p (command.cutAt ' ').2 effect)
      (later : Performs agent depth rest (effect.apply w) effects ended) :
      Performs agent depth (command :: rest) w (effect :: effects) ended
  | failed {depth : Nat} {command : Text} {rest : List Text} {w : World} {p : Primitive} {stop : Stop}
      (name : Primitive.ofText? (command.cutAt ' ').1 = some p)
      (fails : Fails agent depth w p (command.cutAt ' ').2 stop) :
      Performs agent depth (command :: rest) w [] (.error stop)
  | missing {depth : Nat} {command : Text} {rest : List Text} {w : World}
      (name : Primitive.ofText? (command.cutAt ' ').1 = none)
      (absent : w.procedures.get? (command.cutAt ' ').1 = none) :
      Performs agent depth (command :: rest) w [] (.error (.fault (missingProcedure (command.cutAt ' ').1)))
  | refused {depth : Nat} {command body : Text} {rest : List Text} {w : World} {fault : Fault}
      (name : Primitive.ofText? (command.cutAt ' ').1 = none)
      (found : w.procedures.get? (command.cutAt ' ').1 = some body) (refused : w.check agent body = .error fault) :
      Performs agent depth (command :: rest) w [] (.error (.fault fault))
  | tooDeep {command body : Text} {rest : List Text} {w : World}
      (name : Primitive.ofText? (command.cutAt ' ').1 = none)
      (found : w.procedures.get? (command.cutAt ' ').1 = some body) (checked : w.check agent body = .ok ()) :
      Performs agent 0 (command :: rest) w [] (.error .tooDeep)
  | stopped {depth : Nat} {command body : Text} {rest : List Text} {w : World} {effects : List Effect} {stop : Stop}
      (name : Primitive.ofText? (command.cutAt ' ').1 = none)
      (found : w.procedures.get? (command.cutAt ' ').1 = some body) (checked : w.check agent body = .ok ())
      (inside : Performs agent depth (commands body) w effects (.error stop)) :
      Performs agent (depth + 1) (command :: rest) w effects (.error (stop.calledBy (command.cutAt ' ').1))
  | called {depth : Nat} {command body : Text} {rest : List Text} {w : World} {effects more : List Effect}
      {ended : Except Stop Unit} (name : Primitive.ofText? (command.cutAt ' ').1 = none)
      (found : w.procedures.get? (command.cutAt ' ').1 = some body) (checked : w.check agent body = .ok ())
      (inside : Performs agent depth (commands body) w effects (.ok ()))
      (later : Performs agent (depth + 1) rest (applyAll effects w) more ended) :
      Performs agent (depth + 1) (command :: rest) w (effects ++ more) ended

/-- One turn of the agent at a text that holds commands. -/
inductive TakesTurn (agent : Agent) : Nat → Text → World → List Effect → Except Stop Unit → Prop
  | tooDeep {t : Text} {w : World} : TakesTurn agent 0 t w [] (.error .tooDeep)
  | performs {depth : Nat} {t : Text} {w : World} {effects : List Effect} {ended : Except Stop Unit}
      (performs : Performs agent depth (commands t) w effects ended) : TakesTurn agent (depth + 1) t w effects ended

/-- In the course of the text the agent comes to the command, in this world. -/
inductive ComesTo (agent : Agent) (depth : Nat) (w : World) (t : Text) : Text → World → Prop
  | after {before after : List Text} {command : Text} {effects : List Effect}
      (text : commands t = before ++ command :: after) (done : Performs agent depth before w effects (.ok ())) :
      ComesTo agent depth w t command (applyAll effects w)

/-- So many turns one after the other, up to the first that stops, with the effects of each. -/
inductive TakesTurns (agent : Agent) (depth : Nat) (t : Text) :
    Nat → World → List (List Effect) → Except Stop Unit → Prop
  | done {w : World} : TakesTurns agent depth t 0 w [] (.ok ())
  | stopped {times : Nat} {w : World} {effects : List Effect} {stop : Stop}
      (turn : TakesTurn agent depth t w effects (.error stop)) :
      TakesTurns agent depth t (times + 1) w [effects] (.error stop)
  | next {times : Nat} {w : World} {effects : List Effect} {turns : List (List Effect)} {ended : Except Stop Unit}
      (turn : TakesTurn agent depth t w effects (.ok ()))
      (later : TakesTurns agent depth t times (applyAll effects w) turns ended) :
      TakesTurns agent depth t (times + 1) w (effects :: turns) ended

/-- Turtles have a turn each, and every other agent has one. -/
def turnCount (agent : Agent) (w : World) : Nat :=
  if agent = .turtle then w.turtles.toNat else 1

/-- The turns of an execution. A text that is turned down gives none. -/
inductive Executes (agent : Agent) (depth : Nat) (t : Text) (w : World) :
    List (List Effect) → Except Stop Unit → Prop
  | refused {fault : Fault} (check : w.check agent t = .error fault) :
      Executes agent depth t w [] (.error (.fault fault))
  | taken {turns : List (List Effect)} {ended : Except Stop Unit} (check : w.check agent t = .ok ())
      (takes : TakesTurns agent depth t (turnCount agent w) w turns ended) : Executes agent depth t w turns ended

section Applying

variable {w : World}

lemma applyAll_cons (effect : Effect) (effects : List Effect) :
    applyAll (effect :: effects) w = applyAll effects (effect.apply w) :=
  rfl

lemma applyAll_append (effects more : List Effect) :
    applyAll (effects ++ more) w = applyAll more (applyAll effects w) :=
  List.foldl_append

lemma applyAll_definitions (effects : List Effect) :
    (applyAll effects w).procedures = w.procedures ∧ (applyAll effects w).reporters = w.reporters := by
  induction effects generalizing w with
  | nil => exact ⟨rfl, rfl⟩
  | cons effect effects ih =>
    obtain ⟨hprocedures, hreporters⟩ := ih (w := effect.apply w)
    rw [applyAll_cons, hprocedures, hreporters]
    cases effect <;> exact ⟨rfl, rfl⟩

end Applying

section Primitives

variable {agent : Agent} {depth : Nat} {w : World} {p : Primitive} {rest : Text}

lemma Does.runPrimitive {effect : Effect} (h : Does agent depth w p rest effect) :
    runPrimitive agent depth p rest w = (.ok (), effect.apply w) := by
  cases h with
  | created value written whole => simp [World.runPrimitive, value, written, whole, Effect.apply]
  | died => rfl
  | cleared => rfl
  | assigned value => simp [World.runPrimitive, value, Effect.apply]

lemma Fails.runPrimitive {stop : Stop} (h : Fails agent depth w p rest stop) :
    runPrimitive agent depth p rest w = (.error stop, w) := by
  cases h with
  | amount value => simp [World.runPrimitive, value]
  | unwritten value unwritten => simp [World.runPrimitive, value, unwritten]
  | notWhole value written fraction => simp [World.runPrimitive, value, written, fraction]
  | assignment value => simp [World.runPrimitive, value]
  | error => rfl

lemma does_or_fails (agent : Agent) (depth : Nat) (w : World) (p : Primitive) (rest : Text) :
    (∃ effect, Does agent depth w p rest effect) ∨ ∃ stop, Fails agent depth w p rest stop := by
  cases p with
  | createTurtles =>
    cases hv : w.value agent depth rest with
    | error stop => exact .inr ⟨stop, .amount hv⟩
    | ok v =>
      cases ht : v.text with
      | error fault => exact .inr ⟨_, .unwritten hv ht⟩
      | ok t =>
        cases hn : v.toInt? with
        | none => exact .inr ⟨_, .notWhole hv ht hn⟩
        | some n => exact .inl ⟨_, .created hv ht hn⟩
  | die => exact .inl ⟨_, .died⟩
  | clearAll => exact .inl ⟨_, .cleared⟩
  | set =>
    cases hv : w.value agent depth (rest.cutAt ' ').2 with
    | error stop => exact .inr ⟨stop, .assignment hv⟩
    | ok v => exact .inl ⟨_, .assigned hv⟩
  | error => exact .inr ⟨_, .error⟩

end Primitives

section Performing

variable {agent : Agent} {depth : Nat} {w : World}

lemma run_of_commands {t : Text} (h : commands t ≠ []) (depth : Nat) (w : World) :
    run agent (depth + 1) t w = runAll (runCommand agent depth (run agent depth)) (commands t) w := by
  rw [run]
  split
  case h_1 hnone => exact absurd hnone h
  case h_2 => rfl

lemma commands_ne_nil_of_check {t : Text} (h : w.check agent t = .ok ()) : commands t ≠ [] := by
  intro hnone
  simp [check, hnone] at h

lemma exists_message_of_check {t : Text} {fault : Fault} (h : w.check agent t = .error fault) :
    ∃ message, fault = .compiler message := by
  have hname (name : Text) (hf : w.checkName agent name = .error fault) : ∃ message, fault = .compiler message := by
    unfold checkName at hf
    split at hf
    · cases hf
    · split at hf
      · cases hf
        exact ⟨_, rfl⟩
      · split at hf
        · cases hf
        · split at hf
          · cases hf
          · cases hf
            exact ⟨_, rfl⟩
  have hall (cs : List Text) (hf : w.checkAll agent cs = .error fault) : ∃ message, fault = .compiler message := by
    induction cs with
    | nil => cases hf
    | cons command cs ih =>
      rw [checkAll] at hf
      split at hf
      case h_1 hcommand =>
        cases hf
        exact hname _ hcommand
      case h_2 => exact ih hf
  unfold check at h
  split at h
  · cases h
    exact ⟨_, rfl⟩
  · exact hall _ h

lemma callProcedure_of_check {call : Text → World → Ran} {name body : Text}
    (found : w.procedures.get? name = some body) (checked : w.check agent body = .ok ()) :
    callProcedure agent call name w = ((call body w).1.mapError (Stop.calledBy name), (call body w).2) := by
  simp [callProcedure, found, checked]

/-- What is performed is what runs. -/
theorem Performs.runAll {cs : List Text} {effects : List Effect} {ended : Except Stop Unit}
    (h : Performs agent depth cs w effects ended) :
    runAll (runCommand agent depth (run agent depth)) cs w = (ended, applyAll effects w) := by
  induction h with
  | done => rfl
  | primitive name does _ ih =>
    rw [World.runAll, runCommand_primitive name, does.runPrimitive]
    exact ih
  | failed name fails =>
    rw [World.runAll, runCommand_primitive name, fails.runPrimitive]
    rfl
  | missing name absent =>
    rw [World.runAll, runCommand_procedure name]
    simp [callProcedure, absent, applyAll]
  | refused name found refused =>
    rw [World.runAll, runCommand_procedure name]
    simp [callProcedure, found, refused, applyAll]
  | tooDeep name found checked =>
    rw [World.runAll, runCommand_procedure name, callProcedure_of_check found checked]
    rfl
  | stopped name found checked _ ih =>
    rw [World.runAll, runCommand_procedure name, callProcedure_of_check found checked,
      run_of_commands (commands_ne_nil_of_check checked), ih]
    rfl
  | called name found checked _ _ ihInside ihLater =>
    rw [World.runAll, runCommand_procedure name, callProcedure_of_check found checked,
      run_of_commands (commands_ne_nil_of_check checked), ihInside, applyAll_append]
    exact ihLater

lemma Performs.append {before after : List Text} {effects more : List Effect} {ended : Except Stop Unit}
    (h : Performs agent depth before w effects (.ok ()))
    (later : Performs agent depth after (applyAll effects w) more ended) :
    Performs agent depth (before ++ after) w (effects ++ more) ended := by
  generalize hok : Except.ok () = first at h
  induction h with
  | done => exact later
  | primitive name does _ ih => exact .primitive name does (ih later hok)
  | called name found checked inside _ _ ih =>
    rw [applyAll_append] at later
    rw [List.append_assoc]
    exact .called name found checked inside (ih later hok)
  | _ => cases hok

lemma Performs.exists_stopped {cs : List Text} {effects : List Effect} {stop : Stop}
    (h : Performs agent depth cs w effects (.error stop)) :
    ∃ before command after done last, cs = before ++ command :: after ∧ effects = done ++ last ∧
      Performs agent depth before w done (.ok ()) ∧
        Performs agent depth [command] (applyAll done w) last (.error stop) := by
  generalize hstop : Except.error stop = ended at h
  induction h with
  | done => cases hstop
  | @primitive _ command _ _ _ effect _ _ name does _ ih =>
    obtain ⟨before, next, after, done, last, rfl, rfl, hbefore, hlast⟩ := ih hstop
    exact ⟨command :: before, next, after, effect :: done, last, rfl, rfl, .primitive name does hbefore, hlast⟩
  | @called _ command _ _ _ effects _ _ name found checked inside _ _ ih =>
    obtain ⟨before, next, after, done, last, rfl, rfl, hbefore, hlast⟩ := ih hstop
    rw [← applyAll_append] at hlast
    exact ⟨command :: before, next, after, effects ++ done, last, rfl, (List.append_assoc _ _ _).symm,
      .called name found checked inside hbefore, hlast⟩
  | failed name fails => exact ⟨[], _, _, [], [], rfl, rfl, .done, .failed name fails⟩
  | missing name absent => exact ⟨[], _, _, [], [], rfl, rfl, .done, .missing name absent⟩
  | refused name found refused => exact ⟨[], _, _, [], [], rfl, rfl, .done, .refused name found refused⟩
  | tooDeep name found checked => exact ⟨[], _, _, [], [], rfl, rfl, .done, .tooDeep name found checked⟩
  | stopped name found checked inside => exact ⟨[], _, _, [], _, rfl, rfl, .done, .stopped name found checked inside⟩

/-- Whatever commands there are, they are performed in some way. -/
theorem exists_performs (agent : Agent) (depth : Nat) (cs : List Text) (w : World) :
    ∃ effects ended, Performs agent depth cs w effects ended := by
  -- a call is nested less deeply, and the commands of a text follow each other
  induction depth using Nat.strong_induction_on generalizing cs w with
  | _ depth ihDepth =>
    induction cs generalizing w with
    | nil => exact ⟨_, _, .done⟩
    | cons command rest ih =>
      cases hname : Primitive.ofText? (command.cutAt ' ').1 with
      | some p =>
        rcases does_or_fails agent depth w p (command.cutAt ' ').2 with ⟨effect, hdoes⟩ | ⟨stop, hfails⟩
        · obtain ⟨effects, ended, hlater⟩ := ih (effect.apply w)
          exact ⟨_, _, .primitive hname hdoes hlater⟩
        · exact ⟨_, _, .failed hname hfails⟩
      | none =>
        cases hfound : w.procedures.get? (command.cutAt ' ').1 with
        | none => exact ⟨_, _, .missing hname hfound⟩
        | some body =>
          cases hcheck : w.check agent body with
          | error fault => exact ⟨_, _, .refused hname hfound hcheck⟩
          | ok u =>
            cases depth with
            | zero => exact ⟨_, _, .tooDeep hname hfound hcheck⟩
            | succ depth =>
              obtain ⟨effects, ended, hinside⟩ := ihDepth depth (Nat.lt_succ_self depth) (commands body) w
              cases ended with
              | error stop => exact ⟨_, _, .stopped hname hfound hcheck hinside⟩
              | ok u =>
                obtain ⟨more, ended, hlater⟩ := ih (applyAll effects w)
                exact ⟨_, _, .called hname hfound hcheck hinside hlater⟩

end Performing

section Turns

variable {agent : Agent} {depth : Nat} {t : Text} {w : World}

lemma TakesTurn.run (ht : commands t ≠ []) {effects : List Effect} {ended : Except Stop Unit}
    (h : TakesTurn agent depth t w effects ended) : run agent depth t w = (ended, applyAll effects w) := by
  cases h with
  | tooDeep => rfl
  | performs performs => rw [run_of_commands ht, performs.runAll]

lemma exists_takesTurn (agent : Agent) (depth : Nat) (t : Text) (w : World) :
    ∃ effects ended, TakesTurn agent depth t w effects ended := by
  cases depth with
  | zero => exact ⟨_, _, .tooDeep⟩
  | succ depth =>
    obtain ⟨effects, ended, h⟩ := exists_performs agent depth (commands t) w
    exact ⟨_, _, .performs h⟩

lemma ComesTo.mem {command : Text} {w' : World} (h : ComesTo agent depth w t command w') : command ∈ commands t := by
  cases h with
  | after text => simp [text]

lemma ComesTo.procedures {command : Text} {w' : World} (h : ComesTo agent depth w t command w') :
    w'.procedures = w.procedures := by
  cases h with
  | after => exact (applyAll_definitions _).1

lemma ComesTo.takesTurn {command : Text} {w' : World} {effects : List Effect} {stop : Stop}
    (h : ComesTo agent depth w t command w')
    (hstop : ∀ after, Performs agent depth (command :: after) w' effects (.error stop)) :
    ∃ all, TakesTurn agent (depth + 1) t w all (.error stop) ∧ applyAll all w = applyAll effects w' := by
  cases h with
  | @after _ after _ done text performs =>
    refine ⟨done ++ effects, .performs ?_, applyAll_append done effects⟩
    rw [text]
    exact performs.append (hstop after)

lemma TakesTurns.repeatRun (ht : commands t ≠ []) {times : Nat} {turns : List (List Effect)}
    {ended : Except Stop Unit} (h : TakesTurns agent depth t times w turns ended) :
    repeatRun (run agent depth t) times w = (ended, applyAll turns.flatten w) := by
  induction h with
  | done => rfl
  | stopped turn =>
    rw [World.repeatRun, turn.run ht, List.flatten_cons, List.flatten_nil, List.append_nil]
  | next turn _ ih =>
    rw [World.repeatRun, turn.run ht, List.flatten_cons, applyAll_append]
    exact ih

lemma exists_takesTurns (agent : Agent) (depth : Nat) (t : Text) (times : Nat) (w : World) :
    ∃ turns ended, TakesTurns agent depth t times w turns ended := by
  induction times generalizing w with
  | zero => exact ⟨_, _, .done⟩
  | succ times ih =>
    obtain ⟨effects, ended, hturn⟩ := exists_takesTurn agent depth t w
    cases ended with
    | error stop => exact ⟨_, _, .stopped hturn⟩
    | ok u =>
      obtain ⟨turns, ended, hlater⟩ := ih (applyAll effects w)
      exact ⟨_, _, .next hturn hlater⟩

lemma takesTurns_error_iff {times : Nat} {turns : List (List Effect)} {stop : Stop} :
    TakesTurns agent depth t times w turns (.error stop) ↔
      ∃ before done last, before < times ∧ turns = done ++ [last] ∧ TakesTurns agent depth t before w done (.ok ()) ∧
        TakesTurn agent depth t (applyAll done.flatten w) last (.error stop) := by
  constructor
  · intro h
    generalize hstop : Except.error stop = ended at h
    induction h with
    | done => cases hstop
    | @stopped times _ effects _ turn => exact ⟨0, [], effects, times.succ_pos, rfl, .done, hstop ▸ turn⟩
    | @next _ _ effects _ _ turn _ ih =>
      obtain ⟨before, done, last, hbefore, rfl, hdone, hlast⟩ := ih hstop
      refine ⟨before + 1, effects :: done, last, Nat.succ_lt_succ hbefore, rfl, .next turn hdone, ?_⟩
      rwa [List.flatten_cons, applyAll_append]
  · rintro ⟨before, done, last, hbefore, rfl, hdone, hlast⟩
    generalize hok : Except.ok () = ended at hdone
    induction hdone generalizing times with
    | done =>
      obtain ⟨times, rfl⟩ := Nat.exists_eq_succ_of_ne_zero hbefore.ne'
      exact .stopped hlast
    | stopped => cases hok
    | next turn _ ih =>
      obtain ⟨times, rfl⟩ := Nat.exists_eq_succ_of_ne_zero (Nat.ne_zero_of_lt hbefore)
      rw [List.flatten_cons, applyAll_append] at hlast
      exact .next turn (ih (Nat.lt_of_succ_lt_succ hbefore) hlast hok)

lemma execute_of_refused {fault : Fault} (h : w.check agent t = .error fault) :
    execute depth t agent w = (.error (.fault fault), w) := by
  simp [execute, h]

lemma execute_eq_repeatRun (h : w.check agent t = .ok ()) :
    execute depth t agent w = repeatRun (run agent depth t) (turnCount agent w) w := by
  by_cases hagent : agent = .turtle
  · subst hagent
    exact execute_turtle_of_check h
  · rw [execute_of_check h hagent, turnCount, if_neg hagent, repeatRun]
    rcases run agent depth t w with ⟨_ | ⟨⟨⟩⟩, w'⟩ <;> rfl

theorem Executes.execute {turns : List (List Effect)} {ended : Except Stop Unit}
    (h : Executes agent depth t w turns ended) :
    execute depth t agent w = (ended, applyAll turns.flatten w) := by
  cases h with
  | refused check => exact execute_of_refused check
  | taken check takes => rw [execute_eq_repeatRun check, takes.repeatRun (commands_ne_nil_of_check check)]

theorem exists_executes (agent : Agent) (depth : Nat) (t : Text) (w : World) :
    ∃ turns ended, Executes agent depth t w turns ended := by
  cases hcheck : w.check agent t with
  | error fault => exact ⟨_, _, .refused hcheck⟩
  | ok u =>
    obtain ⟨turns, ended, hturns⟩ := exists_takesTurns agent depth t (turnCount agent w) w
    exact ⟨_, _, .taken hcheck hturns⟩

/-- An execution ends in the way its turns end, and leaves the world that their effects make. -/
theorem execute_eq_iff {ended : Except Stop Unit} {w' : World} :
    execute depth t agent w = (ended, w') ↔
      ∃ turns, Executes agent depth t w turns ended ∧ w' = applyAll turns.flatten w := by
  constructor
  · intro h
    obtain ⟨turns, ended', hturns⟩ := exists_executes agent depth t w
    rw [hturns.execute] at h
    cases h
    exact ⟨turns, hturns, rfl⟩
  · rintro ⟨turns, hturns, rfl⟩
    exact hturns.execute

end Turns

end SuiteRunner.Proofs
