import SuiteRunner.Proofs.Flush
import SuiteRunner.Proofs.Words
import SuiteRunner.World.Engine

/-!
# The agents to which primitives are open

A checked text runs no primitive that is closed to its agent, however deeply procedures call one another, unless a
procedure has the name of the primitive: the check takes such a name for the procedure, and running takes it for the
primitive. The main statement says for each kind of agent which procedures a world must not have for its turtles to be
safe from that kind.
-/

namespace SuiteRunner.World.Primitive

def name : Primitive → Text
  | createTurtles => "crt".toList
  | die => "die".toList
  | clearAll => "clear-all".toList
  | set => "set".toList
  | error => "error".toList

/-- The agent may use the primitive. -/
def IsOpenTo (p : Primitive) (agent : Agent) : Prop :=
  ∀ required ∈ p.agent?, required = agent

instance (p : Primitive) (agent : Agent) : Decidable (p.IsOpenTo agent) :=
  inferInstanceAs (Decidable (∀ required ∈ p.agent?, required = agent))

lemma ofText?_eq_some_iff {t : Text} {p : Primitive} : ofText? t = some p ↔ t = p.name := by
  constructor
  · intro h
    unfold ofText? at h
    split_ifs at h with h₁ h₂ h₃ h₄ h₅ <;> cases h <;> assumption
  · rintro rfl
    cases p <;> decide

end SuiteRunner.World.Primitive

namespace SuiteRunner.Proofs
open World

section Checking

lemma isWord_name (p : Primitive) : IsWord p.name := by
  cases p <;> decide

lemma firstWord_eq_name {command : Text} {p : Primitive} (h : (command.cutAt ' ').1 = p.name) :
    command.words.headD [] = p.name := by
  have hword := isWord_name p
  rw [← h] at hword ⊢
  exact firstWord_eq_cutAt hword

variable {w : World} {agent : Agent}

lemma checkName_eq_ok_iff {t : Text} :
    w.checkName agent t = .ok () ↔ w.procedures.has t = true ∨ ∃ p : Primitive, t = p.name ∧ p.IsOpenTo agent := by
  unfold checkName
  cases hhas : w.procedures.has t with
  | true => simp
  | false =>
    cases hp : Primitive.ofText? t with
    | none =>
      simp only [Bool.false_eq_true, if_false, reduceCtorEq, false_or, false_iff]
      rintro ⟨p, hname, -⟩
      rw [Primitive.ofText?_eq_some_iff.mpr hname] at hp
      cases hp
    | some p =>
      have hname := Primitive.ofText?_eq_some_iff.mp hp
      have hopen : (∃ q : Primitive, t = q.name ∧ q.IsOpenTo agent) ↔ p.IsOpenTo agent := by
        constructor
        · rintro ⟨q, hq, hopen⟩
          rw [Primitive.ofText?_eq_some_iff.mpr hq] at hp
          cases hp
          exact hopen
        · exact fun hopen => ⟨p, hname, hopen⟩
      rw [hopen, Primitive.IsOpenTo]
      cases hagent : p.agent? with
      | none => simp [hagent]
      | some required => by_cases hrequired : required = agent <;> simp [hagent, hrequired]

lemma checkAll_eq_ok_iff {cs : List Text} :
    w.checkAll agent cs = .ok () ↔ ∀ command ∈ cs, w.checkName agent (command.words.headD []) = .ok () := by
  induction cs with
  | nil => simp [checkAll]
  | cons command cs ih =>
    rw [checkAll, List.forall_mem_cons]
    cases w.checkName agent (command.words.headD []) with
    | error fault => simp
    | ok u => simpa using ih

lemma checkAll_of_check {t : Text} (h : w.check agent t = .ok ()) : w.checkAll agent (commands t) = .ok () := by
  unfold check at h
  cases hcs : commands t with
  | nil => simp [hcs] at h
  | cons command cs => simpa [hcs] using h

lemma checkName_congr {w' : World} (h : w'.procedures = w.procedures) (t : Text) :
    w'.checkName agent t = w.checkName agent t := by
  unfold checkName
  rw [h]

end Checking

/-- In the course of the commands the agent runs the primitive, be it in the body of a procedure. -/
inductive Uses (agent : Agent) (p : Primitive) : Nat → List Text → World → Prop
  | primitive {depth : Nat} {command : Text} {rest : List Text} {w : World}
      (name : Primitive.ofText? (command.cutAt ' ').1 = some p) : Uses agent p depth (command :: rest) w
  | procedure {depth : Nat} {command body : Text} {rest : List Text} {w : World}
      (name : Primitive.ofText? (command.cutAt ' ').1 = none)
      (found : w.procedures.get? (command.cutAt ' ').1 = some body) (checked : w.check agent body = .ok ())
      (inside : Uses agent p depth (commands body) w) : Uses agent p (depth + 1) (command :: rest) w
  | later {depth : Nat} {command : Text} {rest : List Text} {w w' : World}
      (ran : runCommand agent depth (run agent depth) command w = (.ok (), w'))
      (later : Uses agent p depth rest w') : Uses agent p depth (command :: rest) w

section Running

variable {agent : Agent} {R : World → World → Prop}

lemma runCommand_primitive {depth : Nat} {call : Text → World → Ran} {command : Text} {p : Primitive}
    (h : Primitive.ofText? (command.cutAt ' ').1 = some p) (w : World) :
    runCommand agent depth call command w = runPrimitive agent depth p (command.cutAt ' ').2 w := by
  simp [runCommand, h]

lemma runCommand_procedure {depth : Nat} {call : Text → World → Ran} {command : Text}
    (h : Primitive.ofText? (command.cutAt ' ').1 = none) (w : World) :
    runCommand agent depth call command w = callProcedure agent call (command.cutAt ' ').1 w := by
  simp [runCommand, h]

lemma callProcedure_related (hrefl : ∀ w, R w w) {call : Text → World → Ran} {name : Text} {w : World}
    (hcall : ∀ body, w.procedures.get? name = some body → w.check agent body = .ok () → R w (call body w).2) :
    R w (callProcedure agent call name w).2 := by
  unfold callProcedure
  split
  case h_1 => exact hrefl w
  case h_2 body hfound =>
    split
    case h_1 => exact hrefl w
    case h_2 hcheck => exact hcall body hfound hcheck

/-- Commands change a world by the primitives that are run and by nothing else: a relation that those keep holds between
the world before and the world after, whether the commands come to their end or not. -/
theorem runAll_related (hrefl : ∀ w, R w w) (htrans : ∀ {a b c}, R a b → R b c → R a c) {depth : Nat}
    {cs : List Text} {w : World}
    (hprimitive : ∀ p, Uses agent p depth cs w → ∀ d rest w, R w (runPrimitive agent d p rest w).2) :
    R w (runAll (runCommand agent depth (run agent depth)) cs w).2 := by
  -- a call is nested less deeply, and the commands of a text follow each other
  induction depth using Nat.strong_induction_on generalizing cs w with
  | _ depth ihDepth =>
    induction cs generalizing w with
    | nil => exact hrefl w
    | cons command rest ih =>
      have hfirst : R w (runCommand agent depth (run agent depth) command w).2 := by
        cases hname : Primitive.ofText? (command.cutAt ' ').1 with
        | some p =>
          rw [runCommand_primitive hname]
          exact hprimitive p (.primitive hname) _ _ _
        | none =>
          rw [runCommand_procedure hname]
          apply callProcedure_related hrefl
          intro body hfound hcheck
          cases depth with
          | zero => exact hrefl w
          | succ depth =>
            unfold run
            split
            · exact hrefl w
            · apply ihDepth depth (Nat.lt_succ_self depth)
              exact fun p hp => hprimitive p (.procedure hname hfound hcheck hp)
      rw [runAll]
      rcases hran : runCommand agent depth (run agent depth) command w with ⟨_ | ⟨⟨⟩⟩, w'⟩
      · rwa [hran] at hfirst
      · rw [hran] at hfirst
        exact htrans hfirst (ih fun p hp => hprimitive p (.later hran hp))

lemma runPrimitive_procedures (depth : Nat) (p : Primitive) (rest : Text) (w : World) :
    (runPrimitive agent depth p rest w).2.procedures = w.procedures := by
  cases p with
  | createTurtles =>
    unfold runPrimitive
    cases w.value agent depth rest with
    | error stop => rfl
    | ok value =>
      cases ht : value.text with
      | error fault => simp [ht]
      | ok t => cases hn : value.toInt? <;> simp [ht, hn]
  | set =>
    unfold runPrimitive
    cases hvalue : w.value agent depth (rest.cutAt ' ').2 <;> simp [hvalue]
  | _ => rfl

lemma runCommand_procedures (depth : Nat) (command : Text) (w : World) :
    (runCommand agent depth (run agent depth) command w).2.procedures = w.procedures := by
  have h : (runAll (runCommand agent depth (run agent depth)) [command] w).2.procedures = w.procedures :=
    runAll_related (R := fun a b => b.procedures = a.procedures) (fun _ => rfl) (fun hab hbc => hbc.trans hab)
      fun p _ d rest w => runPrimitive_procedures d p rest w
  rw [runAll] at h
  rcases hran : runCommand agent depth (run agent depth) command w with ⟨_ | ⟨⟨⟩⟩, w'⟩ <;> simpa [hran, runAll] using h

/-- A primitive that a checked text runs is open to its agent, or a procedure hides it from the check. -/
theorem Uses.isOpenTo_or_hidden {p : Primitive} {depth : Nat} {cs : List Text} {w : World}
    (h : Uses agent p depth cs w) (hchecked : w.checkAll agent cs = .ok ()) :
    p.IsOpenTo agent ∨ w.procedures.has p.name = true := by
  induction h with
  | @primitive depth command rest w hname =>
    rw [checkAll_eq_ok_iff, List.forall_mem_cons] at hchecked
    have hname := Primitive.ofText?_eq_some_iff.mp hname
    rw [firstWord_eq_name hname, checkName_eq_ok_iff] at hchecked
    rcases hchecked.1 with hhidden | ⟨q, hq, hopen⟩
    · exact .inr hhidden
    · have hsame : some p = some q := by
        rw [← Primitive.ofText?_eq_some_iff.mpr rfl, Primitive.ofText?_eq_some_iff.mpr hq]
      cases hsame
      exact .inl hopen
  | procedure _ _ checked _ ih => exact ih (checkAll_of_check checked)
  | @later depth command rest w w' hran _ ih =>
    have hsame : (runCommand agent depth (run agent depth) command w).2.procedures = w.procedures :=
      runCommand_procedures depth command w
    rw [hran] at hsame
    rw [checkAll_eq_ok_iff, List.forall_mem_cons] at hchecked
    rw [← hsame]
    apply ih
    rw [checkAll_eq_ok_iff]
    intro next hnext
    rw [checkName_congr hsame]
    exact hchecked.2 next hnext

lemma run_related (hrefl : ∀ w, R w w) (htrans : ∀ {a b c}, R a b → R b c → R a c) {depth : Nat} {t : Text} {w : World}
    (hprimitive : ∀ p d, depth = d + 1 → Uses agent p d (commands t) w →
      ∀ d rest w, R w (runPrimitive agent d p rest w).2) :
    R w (run agent depth t w).2 := by
  cases depth with
  | zero => exact hrefl w
  | succ depth =>
    unfold run
    split
    · exact hrefl w
    · exact runAll_related hrefl htrans fun p => hprimitive p depth rfl

lemma repeatRun_related (hrefl : ∀ w, R w w) (htrans : ∀ {a b c}, R a b → R b c → R a c) {again : World → Ran}
    {times : Nat} {w : World}
    (h : ∀ n < times, ∀ w', repeatRun again n w = (.ok (), w') → R w' (again w').2) :
    R w (repeatRun again times w).2 := by
  induction times generalizing w with
  | zero => exact hrefl w
  | succ times ih =>
    have hfirst : R w (again w).2 := h 0 (by omega) w rfl
    rw [repeatRun]
    rcases hran : again w with ⟨_ | ⟨⟨⟩⟩, w'⟩
    · rwa [hran] at hfirst
    · rw [hran] at hfirst
      apply htrans hfirst
      apply ih
      intro n hn w'' hrest
      apply h (n + 1) (by omega)
      rw [repeatRun, hran]
      exact hrest

end Running

/-- The text is run from this world in the course of its execution: turtles run it one after the other. -/
inductive IsTurn (agent : Agent) (depth : Nat) (t : Text) (w : World) : World → Prop
  | only (others : agent ≠ .turtle) : IsTurn agent depth t w w
  | next {times : Nat} {w' : World} (turtles : agent = .turtle) (turn : times < w.turtles.toNat)
      (before : repeatRun (run agent depth t) times w = (.ok (), w')) : IsTurn agent depth t w w'

/-- The execution of the text runs the primitive. -/
structure ExecutionUses (agent : Agent) (p : Primitive) (depth : Nat) (t : Text) (w : World) : Prop where
  checked : w.check agent t = .ok ()
  turn : ∃ w' inner, depth = inner + 1 ∧ IsTurn agent depth t w w' ∧ Uses agent p inner (commands t) w'

section Execution

variable {agent : Agent} {R : World → World → Prop}

lemma execute_related (hrefl : ∀ w, R w w) (htrans : ∀ {a b c}, R a b → R b c → R a c) {depth : Nat} {t : Text}
    {w : World}
    (hprimitive : ∀ p, ExecutionUses agent p depth t w → ∀ d rest w, R w (runPrimitive agent d p rest w).2) :
    R w (execute depth t agent w).2 := by
  unfold execute
  split
  case h_1 => exact hrefl w
  case h_2 hchecked =>
    have hturn {w' : World} (h : IsTurn agent depth t w w') : R w' (run agent depth t w').2 := by
      apply run_related hrefl htrans
      intro p inner hdepth hp
      exact hprimitive p ⟨hchecked, w', inner, hdepth, h, hp⟩
    split
    case h_1 => exact repeatRun_related hrefl htrans fun n hn w' hran => hturn (.next rfl hn hran)
    case h_2 hother => exact hturn (.only hother)

lemma run_procedures (depth : Nat) (t : Text) (w : World) : (run agent depth t w).2.procedures = w.procedures :=
  run_related (R := fun a b => b.procedures = a.procedures) (fun _ => rfl) (fun hab hbc => hbc.trans hab)
    fun p _ _ _ d rest w => runPrimitive_procedures d p rest w

lemma IsTurn.procedures {depth : Nat} {t : Text} {w w' : World} (h : IsTurn agent depth t w w') :
    w'.procedures = w.procedures := by
  cases h with
  | only => rfl
  | @next times _ _ _ before =>
    have hall : (repeatRun (run agent depth t) times w).2.procedures = w.procedures :=
      repeatRun_related (R := fun a b => b.procedures = a.procedures) (fun _ => rfl) (fun hab hbc => hbc.trans hab)
        fun _ _ w' _ => run_procedures depth t w'
    rwa [before] at hall

/-- What an execution runs is open to its agent, or a procedure hides it from the check. -/
theorem ExecutionUses.isOpenTo_or_hidden {p : Primitive} {depth : Nat} {t : Text} {w : World}
    (h : ExecutionUses agent p depth t w) : p.IsOpenTo agent ∨ w.procedures.has p.name = true := by
  obtain ⟨hchecked, w', inner, -, hturn, huses⟩ := h
  have hsame := hturn.procedures
  have hchecked' : w'.checkAll agent (commands t) = .ok () := by
    rw [checkAll_eq_ok_iff]
    intro command hcommand
    rw [checkName_congr hsame]
    exact checkAll_eq_ok_iff.mp (checkAll_of_check hchecked) command hcommand
  rw [← hsame]
  exact huses.isOpenTo_or_hidden hchecked'

lemma turtles_of_set (depth : Nat) (rest : Text) (w : World) :
    (runPrimitive agent depth .set rest w).2.turtles = w.turtles := by
  unfold runPrimitive
  cases hvalue : w.value agent depth (rest.cutAt ' ').2 <;> simp [hvalue]

lemma check_of_hidden {p : Primitive} {w : World} (hhidden : w.procedures.has p.name = true) {t : Text}
    (ht : commands t = [t]) (hfirst : t.words.headD [] = p.name) : w.check agent t = .ok () := by
  have hchecked : w.checkAll agent [t] = .ok () := by
    rw [checkAll_eq_ok_iff]
    simp only [List.mem_singleton, forall_eq, hfirst]
    exact checkName_eq_ok_iff.mpr (.inl hhidden)
  unfold check
  rw [ht]
  exact hchecked

lemma run_createTurtle (w : World) :
    run agent 2 "crt 1".toList w = (.ok (), { w with turtles := w.turtles + 1 }) := by
  rfl

lemma run_die (w : World) : run agent 2 "die".toList w = (.ok (), { w with turtles := w.turtles - 1 }) := by
  rfl

lemma run_clearAll (w : World) :
    run agent 2 "clear-all".toList w = (.ok (), { w with turtles := 0, globals := [] }) := by
  rfl

lemma execute_of_check {depth : Nat} {t : Text} {w : World} (hchecked : w.check agent t = .ok ())
    (hother : agent ≠ .turtle) : execute depth t agent w = run agent depth t w := by
  unfold execute
  rw [hchecked]
  cases agent with
  | turtle => exact absurd rfl hother
  | _ => rfl

lemma execute_turtle_of_check {depth : Nat} {t : Text} {w : World} (hchecked : w.check .turtle t = .ok ()) :
    execute depth t .turtle w = repeatRun (run .turtle depth t) w.turtles.toNat w := by
  unfold execute
  rw [hchecked]

lemma repeatRun_createTurtle (times : Nat) (w : World) :
    (repeatRun (run agent 2 "crt 1".toList) times w).2.turtles = w.turtles + times := by
  induction times generalizing w with
  | zero => simp [repeatRun]
  | succ times ih =>
    have hrest := ih { w with turtles := w.turtles + 1 }
    rw [repeatRun, run_createTurtle]
    simp only at hrest ⊢
    omega

lemma ExecutionUses.turtles_pos {p : Primitive} {depth : Nat} {t : Text} {w : World}
    (h : ExecutionUses .turtle p depth t w) : 0 < w.turtles := by
  obtain ⟨-, w', inner, -, hturn, -⟩ := h
  cases hturn with
  | only others => exact absurd rfl others
  | next _ turn => omega

lemma executionUses_of_hidden {p : Primitive} {w : World} (hhidden : w.procedures.has p.name = true)
    (hturn : agent ≠ .turtle ∨ 0 < w.turtles) : ExecutionUses agent p 1 p.name w := by
  have hcommands : commands p.name = [p.name] := by cases p <;> decide
  have hfirst : (p.name.cutAt ' ').1 = p.name := by cases p <;> decide
  have huses : Uses agent p 0 (commands p.name) w := by
    rw [hcommands]
    exact .primitive (by rw [hfirst, Primitive.ofText?_eq_some_iff])
  refine ⟨check_of_hidden hhidden hcommands (firstWord_eq_name hfirst), w, 0, rfl, ?_, huses⟩
  by_cases hagent : agent = .turtle
  · have hpos : 0 < w.turtles := hturn.resolve_left (not_not_intro hagent)
    have hnone : repeatRun (run agent 1 p.name) 0 w = (.ok (), w) := rfl
    exact .next hagent (by omega) hnone
  · exact .only hagent

lemma ExecutionUses.isOpenTo_of_free {p : Primitive} {depth : Nat} {t : Text} {w : World}
    (h : ExecutionUses agent p depth t w) (hfree : w.procedures.has p.name = false) : p.IsOpenTo agent := by
  apply h.isOpenTo_or_hidden.resolve_right
  rw [hfree]
  exact Bool.false_ne_true

lemma set_or_error_of_isOpenTo (hagent : agent = .patch ∨ agent = .link) {p : Primitive}
    (hopen : p.IsOpenTo agent) : p = .set ∨ p = .error := by
  rcases hagent with rfl | rfl <;> revert hopen <;> cases p <;> decide

lemma turtles_kept_iff {w : World} (hagent : agent = .patch ∨ agent = .link) :
    (∀ depth t, (execute depth t agent w).2.turtles = w.turtles) ↔
      w.procedures.has "crt".toList = false ∧ w.procedures.has "die".toList = false ∧
        (w.procedures.has "clear-all".toList = false ∨ w.turtles = 0) := by
  constructor
  · intro h
    have hother : agent ≠ .turtle := by rcases hagent with rfl | rfl <;> decide
    have hrun {p : Primitive} (hhidden : w.procedures.has p.name = true) {t : Text} (ht : commands t = [t])
        (hfirst : t.words.headD [] = p.name) : (run agent 2 t w).2.turtles = w.turtles := by
      rw [← execute_of_check (check_of_hidden hhidden ht hfirst) hother]
      exact h 2 t
    simp only [← Bool.not_eq_true]
    refine ⟨fun hhidden => ?_, fun hhidden => ?_, or_iff_not_imp_left.mpr fun hhidden => ?_⟩
    · have hkept := hrun (p := .createTurtles) hhidden (t := "crt 1".toList) (by decide) (by decide)
      rw [run_createTurtle] at hkept
      simp only at hkept
      omega
    · have hkept := hrun (p := .die) hhidden (t := "die".toList) (by decide) (by decide)
      rw [run_die] at hkept
      simp only at hkept
      omega
    · have hkept := hrun (p := .clearAll) (not_not.mp hhidden) (t := "clear-all".toList) (by decide) (by decide)
      rw [run_clearAll] at hkept
      exact hkept.symm
  · rintro ⟨hcrt, hdie, hclear⟩ depth t
    refine execute_related (R := fun a b => a.turtles = w.turtles → b.turtles = w.turtles) (fun _ h => h)
      (fun hab hbc h => hbc (hab h)) ?_ rfl
    intro p huses d rest a ha
    have hclosed (hfree : w.procedures.has p.name = false) : p = .set ∨ p = .error :=
      set_or_error_of_isOpenTo hagent (huses.isOpenTo_of_free hfree)
    cases p with
    | createTurtles => simpa using hclosed hcrt
    | die => simpa using hclosed hdie
    | clearAll =>
      rcases hclear with hclear | hzero
      · simpa using hclosed hclear
      · exact hzero.symm
    | set => rwa [turtles_of_set]
    | error => exact ha

lemma turtles_le_iff {w : World} :
    (∀ depth t, (execute depth t .turtle w).2.turtles ≤ w.turtles) ↔
      w.procedures.has "crt".toList = false ∨ w.turtles ≤ 0 := by
  constructor
  · intro h
    rw [or_iff_not_imp_left, Bool.not_eq_false]
    intro hhidden
    have hle := h 2 "crt 1".toList
    rw [execute_turtle_of_check (check_of_hidden (p := .createTurtles) hhidden (by decide) (by decide)),
      repeatRun_createTurtle] at hle
    omega
  · intro hcrt depth t
    refine execute_related (R := fun a b => a.turtles ≤ w.turtles → b.turtles ≤ w.turtles) (fun _ h => h)
      (fun hab hbc h => hbc (hab h)) ?_ (Int.le_refl _)
    intro p huses d rest a ha
    have hpos := huses.turtles_pos
    cases p with
    | createTurtles =>
      rcases hcrt with hcrt | hle
      · exact absurd (huses.isOpenTo_of_free hcrt) (by decide)
      · omega
    | die =>
      change a.turtles - 1 ≤ w.turtles
      omega
    | clearAll => exact Int.le_of_lt hpos
    | set => rwa [turtles_of_set]
    | error => exact ha

end Execution

/-- What a world must not define for its turtles to be safe: patches and links leave their number as it is exactly if no
procedure hides a primitive that would change it, turtles never increase it exactly if none hides the creation of
turtles, and an agent runs none but the primitives that are open to it exactly if none hides a closed one. Turtles that
are not there run nothing. -/
theorem execute_context_iff (w : World) :
    (∀ agent : Agent, agent = .patch ∨ agent = .link →
      ((∀ depth t, (execute depth t agent w).2.turtles = w.turtles) ↔
        w.procedures.has "crt".toList = false ∧ w.procedures.has "die".toList = false ∧
          (w.procedures.has "clear-all".toList = false ∨ w.turtles = 0))) ∧
      ((∀ depth t, (execute depth t .turtle w).2.turtles ≤ w.turtles) ↔
        w.procedures.has "crt".toList = false ∨ w.turtles ≤ 0) ∧
      ∀ agent : Agent, (∀ depth t p, ExecutionUses agent p depth t w → p.IsOpenTo agent) ↔
        (∀ p : Primitive, w.procedures.has p.name = true → p.IsOpenTo agent) ∨ agent = .turtle ∧ w.turtles ≤ 0 := by
  refine ⟨fun agent hagent => turtles_kept_iff hagent, turtles_le_iff, fun agent => ⟨fun h => ?_, ?_⟩⟩
  · by_cases hturn : agent = .turtle ∧ w.turtles ≤ 0
    · exact .inr hturn
    · left
      intro p hhidden
      apply h 1 p.name p (executionUses_of_hidden hhidden ?_)
      by_cases hagent : agent = .turtle
      · exact .inr (Int.not_le.mp fun hle => hturn ⟨hagent, hle⟩)
      · exact .inl hagent
  · rintro (hhidden | ⟨rfl, hle⟩) depth t p huses
    · rcases huses.isOpenTo_or_hidden with hopen | hname
      · exact hopen
      · exact hhidden p hname
    · exact absurd huses.turtles_pos (Int.not_lt.mpr hle)

/-- A procedure named like the creation of turtles lets a patch create them. -/
theorem execute_context_hidden :
    let world : World := (compile "to crt set x 1 end".toList {}).2
    (compile "to crt set x 1 end".toList {}).1 = .ok () ∧
      execute depthLimit "crt 5".toList .patch world = (.ok (), { world with turtles := 5 }) ∧ world.turtles = 0 := by
  decide

end SuiteRunner.Proofs
