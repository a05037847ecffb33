import SuiteRunner.Proofs.Effects
import SuiteRunner.Proofs.IntegerTexts

/-!
# What the compiler leaves behind

A text is checked before it runs, but the expressions in it and the bodies of the procedures that it calls are compiled
only when their turn comes. The main statement says what a world is like after the compiler has turned something down:
as it was if that was the text, and else as the primitives left it that had come to their end. A text that is a single
primitive is either turned down at once or never.
-/

namespace SuiteRunner.Proofs
open World

/-- The command stands in the text or in the body of a procedure. -/
def StandsIn (t : Text) (procedures : Table Text) (command : Text) : Prop :=
  command ∈ commands t ∨ ∃ name body, procedures.get? name = some body ∧ command ∈ commands body

/-- The compiler turns down the expression of the command, or the body of the procedure that it calls. -/
inductive TurnsDown (agent : Agent) (w : World) (message : Text) (command : Text) : Prop
  | expression {depth : Nat} {p : Primitive} (name : Primitive.ofText? (command.cutAt ' ').1 = some p)
      (fails : Fails agent depth w p (command.cutAt ' ').2 (rejected message))
  | body {body : Text} (name : Primitive.ofText? (command.cutAt ' ').1 = none)
      (found : w.procedures.get? (command.cutAt ' ').1 = some body)
      (refused : w.check agent body = .error (.compiler message))

section Refusing

variable {agent : Agent} {depth : Nat} {w : World} {t message : Text} {procedures : Table Text}

lemma calledBy_eq_rejected_iff {name : Text} {stop : Stop} :
    stop.calledBy name = rejected message ↔ stop = rejected message := by
  cases stop with
  | tooDeep => rfl
  | fault fault => cases fault <;> simp [Stop.calledBy, rejected]

/-- A command that is turned down in the course of others is turned down in the world that these leave. -/
theorem Performs.turnsDown {cs : List Text} {effects : List Effect}
    (h : Performs agent depth cs w effects (.error (rejected message))) (hprocedures : w.procedures = procedures)
    (hcs : ∀ command ∈ cs, StandsIn t procedures command) :
    ∃ command, StandsIn t procedures command ∧ TurnsDown agent (applyAll effects w) message command := by
  -- no effect touches the procedures, so that they are the same in every world of the induction
  generalize hended : Except.error (rejected message) = ended at h
  induction h with
  | done => cases hended
  | @primitive _ _ _ w _ effect _ _ _ _ _ ih =>
    have hsame : (effect.apply w).procedures = procedures := by
      rw [← hprocedures]
      exact (applyAll_definitions [effect]).1
    exact ih hsame (fun command hmem => hcs command (List.mem_cons_of_mem _ hmem)) hended
  | @failed _ command _ _ _ _ name fails =>
    cases hended
    exact ⟨command, hcs command List.mem_cons_self, .expression name fails⟩
  | missing => simp [rejected, missingProcedure] at hended
  | @refused _ command _ _ _ _ name found refused =>
    cases hended
    exact ⟨command, hcs command List.mem_cons_self, .body name found refused⟩
  | tooDeep => simp [rejected] at hended
  | stopped _ found _ _ ih =>
    rw [Except.error.injEq, eq_comm, calledBy_eq_rejected_iff] at hended
    apply ih hprocedures _ (congrArg Except.error hended.symm)
    exact fun command hmem => .inr ⟨_, _, hprocedures ▸ found, hmem⟩
  | @called _ _ _ _ w effects _ _ _ _ _ _ _ _ ihLater =>
    have hsame : (applyAll effects w).procedures = procedures := by
      rw [← hprocedures]
      exact (applyAll_definitions effects).1
    rw [applyAll_append]
    exact ihLater hsame (fun command hmem => hcs command (List.mem_cons_of_mem _ hmem)) hended

lemma TakesTurns.turnsDown {times : Nat} {turns : List (List Effect)}
    (h : TakesTurns agent depth t times w turns (.error (rejected message))) :
    ∃ command, StandsIn t w.procedures command ∧ TurnsDown agent (applyAll turns.flatten w) message command := by
  generalize hended : Except.error (rejected message) = ended at h
  induction h with
  | done => cases hended
  | stopped turn =>
    cases hended
    rw [List.flatten_cons, List.flatten_nil, List.append_nil]
    cases turn with
    | performs performs => exact performs.turnsDown rfl fun command hmem => .inl hmem
  | @next _ w effects _ _ _ _ ih =>
    have hlater := ih hended
    rw [(applyAll_definitions effects).1] at hlater
    rw [List.flatten_cons, applyAll_append]
    exact hlater

end Refusing

/-- The second world has the reporters of the first one and all of its globals, be it with other values. -/
structure Extends (w w' : World) : Prop where
  reporters : w'.reporters = w.reporters
  globals : ∀ name, w.globals.has name = true → w'.globals.has name = true

lemma Extends.noGlobal {w w' : World} (hext : Extends w w') {name : Text} (h : w'.globals.get? name = none) :
    w.globals.get? name = none := by
  by_contra hsome
  have hhas := hext.globals name (Option.isSome_iff_ne_none.mpr hsome)
  rw [Table.has, h] at hhas
  cases hhas

section Extending

variable {agent : Agent} {w w' : World} {call call' : Text → Except Stop Value}

lemma apply_ne_rejected (op : Operator) (a b : Value) (message : Text) :
    World.apply agent op a b ≠ .error (rejected message) := by
  intro h
  have happlies := applies agent op a b
  rw [h] at happlies
  generalize hresult : Except.error (rejected message) = result at happlies
  cases happlies <;> simp [rejected, failed, quotientTooLarge] at hresult

variable (hext : Extends w w') (hcall : ∀ t v, call t = .ok v → ∀ message, call' t ≠ .error (rejected message))

include hext hcall

lemma wordValue_ne_rejected {word : Text} {v : Value} (h : wordValue w call word = .ok v) (message : Text) :
    wordValue w' call' word ≠ .error (rejected message) := by
  intro h'
  have hword' := hasWordValue w' call' word
  rw [h'] at hword'
  generalize hresult : Except.error (rejected message) = result at hword'
  cases hword' with
  | @reporter body name noGlobal found =>
    -- a name that is no global of the second world is none of the first, so that both call the reporter
    rw [hext.reporters] at found
    rw [wordValue_of_reporter name (hext.noGlobal noGlobal) found] at h
    obtain ⟨stop, hstop, hcalled⟩ := mapError_eq_error_iff.mp hresult.symm
    rw [calledBy_eq_rejected_iff] at hcalled
    subst hcalled
    exact hcall body v (mapError_eq_ok_iff.mp h) message hstop
  | unknown name noGlobal noReporter =>
    rw [hext.reporters] at noReporter
    rw [wordValue_of_unknown name (hext.noGlobal noGlobal) noReporter] at h
    cases h
  | @unread fault =>
    obtain ⟨text, hunread⟩ := exists_unreadInteger word fault
    simp [rejected, hunread] at hresult
  | _ => cases hresult

lemma atomValue_ne_rejected {atom : Atom} {v : Value} (h : atomValue w call atom = .ok v) (message : Text) :
    atomValue w' call' atom ≠ .error (rejected message) := by
  cases atom with
  | countTurtles => exact fun h' => by cases h'
  | word name => exact wordValue_ne_rejected hext hcall h message

lemma chainValue_ne_rejected {chain : Chain} {first first' v : Value}
    (h : chainValue w agent call first chain = .ok v) (message : Text) :
    chainValue w' agent call' first' chain ≠ .error (rejected message) := by
  induction chain generalizing first first' with
  | done => exact fun h' => by cases h'
  | broken => cases h
  | step op atom rest ih =>
    intro h'
    obtain ⟨right, next, hright, -, hrest⟩ := chainValue_step_eq_ok_iff.mp h
    rcases chainValue_step_eq_error_iff.mp h' with hatom | ⟨right', -, happly | ⟨next', -, hrest'⟩⟩
    · exact atomValue_ne_rejected hext hcall hright message hatom
    · exact apply_ne_rejected op first' right' message happly
    · exact ih hrest hrest'

omit hcall

/-- An expression that has a value is compiled in every world with the same names, though it may fail there. -/
theorem value_ne_rejected {depth : Nat} {t : Text} {v : Value} (h : w.value agent depth t = .ok v) (message : Text) :
    w'.value agent depth t ≠ .error (rejected message) := by
  induction depth generalizing t v message with
  | zero => cases h
  | succ depth ih =>
    intro h'
    have hcall (t : Text) (v : Value) (hv : w.value agent depth t = .ok v) (message : Text) :
        w'.value agent depth t ≠ .error (rejected message) := ih hv message
    obtain ⟨e, first, he, hfirst, hchain⟩ := value_eq_ok_iff.mp h
    rcases value_eq_error_iff.mp h' with ⟨hnone, -⟩ | ⟨e', he', hstop⟩
    · rw [he] at hnone
      cases hnone
    · rw [he, Option.some.injEq] at he'
      subst he'
      rcases hstop with hatom | ⟨first', -, hchain'⟩
      · exact atomValue_ne_rejected hext hcall hfirst message hatom
      · exact chainValue_ne_rejected hext hcall hchain message hchain'

end Extending

section SinglePrimitive

variable {agent : Agent} {depth : Nat} {w : World} {p : Primitive} {rest : Text}

lemma extends_assigned (name : Text) (v : Value) : Extends w ((Effect.assigned name v).apply w) := by
  refine ⟨rfl, fun other hother => ?_⟩
  change (w.globals.put name v).has other = true
  by_cases hsame : other = name
  · rw [hsame, Table.has_put_self]
  · rwa [Table.has_put_of_ne hsame]

lemma Does.not_rejected {effect : Effect} (h : Does agent depth w p rest effect) (message : Text) :
    ¬ Fails agent depth (effect.apply w) p rest (rejected message) := by
  intro hfails
  generalize hstop : rejected message = stop at hfails
  cases h with
  | @created _ _ _ n value =>
    have hext : Extends w ((Effect.created n).apply w) := ⟨rfl, fun _ hname => hname⟩
    cases hfails with
    | amount value' => exact value_ne_rejected hext value message (hstop ▸ value')
    | unwritten _ unwritten =>
      obtain ⟨-, rfl⟩ := text_eq_error_iff.mp unwritten
      simp [rejected, tooLongInteger] at hstop
    | notWhole => simp [rejected, badInteger] at hstop
  | died => cases hfails
  | cleared => cases hfails
  | @assigned _ v value =>
    cases hfails with
    | assignment value' => exact value_ne_rejected (extends_assigned _ v) value message (hstop ▸ value')

variable {t command : Text} {effects : List Effect} {turns : List (List Effect)} {ended : Except Stop Unit}

lemma Performs.single (hp : Primitive.ofText? (command.cutAt ' ').1 = some p)
    (h : Performs agent depth [command] w effects ended) :
    (∃ effect, Does agent depth w p (command.cutAt ' ').2 effect ∧ effects = [effect] ∧ ended = .ok ()) ∨
      ∃ stop, Fails agent depth w p (command.cutAt ' ').2 stop ∧ effects = [] ∧ ended = .error stop := by
  cases h with
  | primitive name does later =>
    rw [hp, Option.some.injEq] at name
    subst name
    cases later
    exact .inl ⟨_, does, rfl, rfl⟩
  | failed name fails =>
    rw [hp, Option.some.injEq] at name
    subst name
    exact .inr ⟨_, fails, rfl, rfl⟩
  | missing name => simp [hp] at name
  | refused name => simp [hp] at name
  | tooDeep name => simp [hp] at name
  | stopped name => simp [hp] at name
  | called name => simp [hp] at name

lemma TakesTurns.ne_rejected (ht : commands t = [command]) (hp : Primitive.ofText? (command.cutAt ' ').1 = some p)
    {times : Nat} (h : TakesTurns agent depth t times w turns ended) (message : Text)
    (hfirst : ∀ inner, depth = inner + 1 → ¬ Fails agent inner w p (command.cutAt ' ').2 (rejected message)) :
    ended ≠ .error (rejected message) := by
  -- each turn that comes to its end is compiled again in the world that it leaves to the next
  induction h with
  | done => simp
  | stopped turn =>
    cases turn with
    | tooDeep => simp [rejected]
    | performs performs =>
      rw [ht] at performs
      rcases performs.single hp with ⟨effect, -, -, hok⟩ | ⟨stop, hfails, -, hstop⟩
      · cases hok
      · intro hrejected
        rw [hstop, Except.error.injEq] at hrejected
        exact hfirst _ rfl (hrejected ▸ hfails)
  | next turn _ ih =>
    cases turn with
    | performs performs =>
      rw [ht] at performs
      rcases performs.single hp with ⟨effect, hdoes, rfl, -⟩ | ⟨stop, -, -, hstop⟩
      · apply ih
        intro inner hinner
        rw [Nat.succ.inj hinner] at hdoes
        exact hdoes.not_rejected message
      · cases hstop

lemma TakesTurns.flatten_eq_nil (ht : commands t = [command]) (hp : Primitive.ofText? (command.cutAt ' ').1 = some p)
    {times : Nat} {message : Text} (h : TakesTurns agent depth t times w turns (.error (rejected message))) :
    turns.flatten = [] := by
  cases h with
  | stopped turn =>
    cases turn with
    | performs performs =>
      rw [ht] at performs
      rcases performs.single hp with ⟨effect, -, -, hok⟩ | ⟨stop, -, rfl, -⟩
      · cases hok
      · rfl
  | next turn later =>
    cases turn with
    | performs performs =>
      rw [ht] at performs
      rcases performs.single hp with ⟨effect, hdoes, rfl, -⟩ | ⟨stop, -, -, hstop⟩
      · refine absurd rfl (later.ne_rejected ht hp message fun inner hinner => ?_)
        rw [Nat.succ.inj hinner] at hdoes
        exact hdoes.not_rejected message
      · cases hstop

end SinglePrimitive

/-- What the compiler turns down leaves the world as it is if it is the text, and else with the effects of the
primitives that had come to their end before a command that is turned down in this world. No effect is lost or half
done, definitions are never touched, and a text that is a single primitive is not turned down once it has had an
effect. -/
theorem execute_rejected_iff (agent : Agent) (depth : Nat) (t : Text) (w : World) :
    (∀ message w', execute depth t agent w = (.error (rejected message), w') ↔
      w.check agent t = .error (.compiler message) ∧ w' = w ∨
        w.check agent t = .ok () ∧ (∃ command, StandsIn t w.procedures command ∧ TurnsDown agent w' message command) ∧
          ∃ turns, TakesTurns agent depth t (turnCount agent w) w turns (.error (rejected message)) ∧
            w' = applyAll turns.flatten w) ∧
      (execute depth t agent w).2.procedures = w.procedures ∧ (execute depth t agent w).2.reporters = w.reporters ∧
      ∀ command p, commands t = [command] → Primitive.ofText? (command.cutAt ' ').1 = some p →
        ∀ message w', execute depth t agent w = (.error (rejected message), w') → w' = w := by
  have hdefinitions : (execute depth t agent w).2.procedures = w.procedures ∧
      (execute depth t agent w).2.reporters = w.reporters := by
    obtain ⟨turns, ended, hexecutes⟩ := exists_executes agent depth t w
    rw [hexecutes.execute]
    exact applyAll_definitions _
  refine ⟨fun message w' => ?_, hdefinitions.1, hdefinitions.2, fun command p ht hp message w' h => ?_⟩
  · rw [execute_eq_iff]
    constructor
    · rintro ⟨turns, hexecutes, rfl⟩
      generalize hended : Except.error (rejected message) = ended at hexecutes
      cases hexecutes with
      | refused check =>
        cases hended
        exact .inl ⟨check, rfl⟩
      | taken check takes =>
        subst hended
        exact .inr ⟨check, takes.turnsDown, turns, takes, rfl⟩
    · rintro (⟨hcheck, rfl⟩ | ⟨hcheck, -, turns, htakes, rfl⟩)
      · exact ⟨[], .refused hcheck, rfl⟩
      · exact ⟨turns, .taken hcheck htakes, rfl⟩
  · obtain ⟨turns, hexecutes, rfl⟩ := execute_eq_iff.mp h
    cases hexecutes with
    | refused => rfl
    | taken _ takes =>
      rw [takes.flatten_eq_nil ht hp]
      rfl

/-- A text may be turned down when half of it has run. -/
theorem execute_rejected_midway :
    execute depthLimit "crt 1 ; set x y".toList .observer {} =
        (.error (rejected "Nothing named Y has been defined.".toList), { turtles := 1 }) ∧
      ({ turtles := 1 } : World) ≠ {} := by
  decide +kernel

end SuiteRunner.Proofs
