import SuiteRunner.Proofs.SoundWorld
import SuiteRunner.Proofs.StoppedEvaluation
import SuiteRunner.Proofs.Effects

/-!
# What the check accepts and running finds

The check of a command looks at its first word, wherever that ends, and running at what stands before the first space.
The main statement is that these are the same in the bodies of procedures, and in a text unless another blank stands in
front of the first space of a command, which is the only way to a procedure that is missing.
-/

namespace SuiteRunner.Proofs
open World

/-- No blank but a space ends the first word. -/
def IsSpaced (command : Text) : Prop :=
  ∀ c ∈ (command.cutAt ' ').1, isBlank c = false

/-- A primitive has the name, or a procedure. -/
def IsKnown (procedures : Table Text) (name : Text) : Prop :=
  (∃ p, Primitive.ofText? name = some p) ∨ procedures.has name = true

/-- Running takes the command for what the check has looked at, and this is a primitive or a procedure. -/
structure IsDispatched (w : World) (command : Text) : Prop where
  sameHead : (command.cutAt ' ').1 = command.words.headD []
  known : IsKnown w.procedures (command.cutAt ' ').1

section Heads

variable {t command : Text} {w : World} {agent : Agent}

lemma not_isKnown_iff {procedures : Table Text} {name : Text} :
    ¬ IsKnown procedures name ↔ Primitive.ofText? name = none ∧ procedures.get? name = none := by
  simp [IsKnown, Table.has, Option.eq_none_iff_forall_ne_some]

lemma isFlushLeft_of_mem_commands (h : command ∈ commands t) : command ≠ [] ∧ IsFlushLeft command := by
  rw [commands, List.mem_filter, List.mem_map] at h
  obtain ⟨⟨piece, -, rfl⟩, hne⟩ := h
  exact ⟨by simpa using hne, isFlushLeft_trim piece⟩

lemma mem_of_mem_command (h : command ∈ commands t) {c : Char} (hc : c ∈ command) : c ∈ t := by
  rw [commands, List.mem_filter, List.mem_map] at h
  obtain ⟨⟨piece, hpiece, rfl⟩, -⟩ := h
  exact (forall_mem_of_mem_splitOnP hpiece c (mem_of_mem_trim hc)).1

lemma IsSpaced.isWord (h : IsSpaced command) (hne : command ≠ []) (hflush : IsFlushLeft command) :
    IsWord (command.cutAt ' ').1 := by
  refine ⟨fun hnil => ?_, h⟩
  rcases cutAt_split ' ' command with hcut | hcut
  · exact hne (hcut.trans hnil)
  · rw [hcut, hnil, List.nil_append, isFlushLeft_cons] at hflush
    exact absurd hflush (by decide)

lemma isSpaced_of_sameHead (h : (command.cutAt ' ').1 = command.words.headD []) : IsSpaced command := by
  rw [IsSpaced, h]
  cases hwords : command.words with
  | nil => simp
  | cons word words => exact (isWord_of_mem_words (hwords ▸ List.mem_cons_self)).no_blank

lemma isDispatched_iff_isSpaced (checked : w.check agent t = .ok ()) (hmem : command ∈ commands t) :
    IsDispatched w command ↔ IsSpaced command := by
  constructor
  · exact fun h => isSpaced_of_sameHead h.sameHead
  · intro hspaced
    obtain ⟨hne, hflush⟩ := isFlushLeft_of_mem_commands hmem
    have hsame := firstWord_eq_cutAt (hspaced.isWord hne hflush)
    have hname := checkAll_eq_ok_iff.mp (checkAll_of_check checked) command hmem
    rw [checkName_eq_ok_iff, hsame] at hname
    refine ⟨hsame.symm, ?_⟩
    rcases hname with hhas | ⟨p, hp, -⟩
    · exact .inr hhas
    · exact .inl ⟨p, Primitive.ofText?_eq_some_iff.mpr hp⟩

lemma isSpaced_of_isEvenlySpaced (h : IsEvenlySpaced t) (hmem : command ∈ commands t) : IsSpaced command := by
  intro c hc
  rw [← Bool.not_eq_true]
  intro hblank
  have hspace : c = ' ' := h.eq_space (mem_of_mem_command hmem (mem_of_mem_cutAt hc)) hblank
  exact not_mem_cutAt ' ' command (hspace ▸ hc)

lemma IsDispatched.congr {w' : World} (hprocedures : w'.procedures = w.procedures) (h : IsDispatched w command) :
    IsDispatched w' command :=
  ⟨h.sameHead, hprocedures ▸ h.known⟩

end Heads

/-- The names of procedures are words, and their bodies are words with single spaces between them. -/
structure HasPlainProcedures (w : World) : Prop where
  names : ∀ entry ∈ w.procedures, IsWord entry.1
  bodies : ∀ entry ∈ w.procedures, IsEvenlySpaced entry.2

lemma hasPlainProcedures_afterCalls (history : History) : HasPlainProcedures (afterCalls history {}) := by
  have hnew : HasPlainProcedures {} := ⟨fun _ h => absurd h List.not_mem_nil, fun _ h => absurd h List.not_mem_nil⟩
  apply afterCalls_keeps hnew _ _ _ _ history hnew
  · intro source w hw
    unfold compile
    cases h : Definitions.ofSource source with
    | error fault => exact hw
    | ok ds =>
      have hsound := Definitions.isSound_of_ofSource h
      exact ⟨fun entry hmem => hsound.names entry (.inl hmem), fun entry hmem => hsound.bodies entry (.inl hmem)⟩
  · intro path w hw
    unfold openModel
    split
    · exact ⟨hnew.names, hnew.bodies⟩
    · exact hw
  · exact fun w hw => ⟨hw.names, hw.bodies⟩
  · intro agent depth p rest w hw
    have hsame : (runPrimitive agent depth p rest w).2.procedures = w.procedures :=
      runPrimitive_procedures depth p rest w
    exact ⟨hsame ▸ hw.names, hsame ▸ hw.bodies⟩

section Bodies

variable {w : World} {agent : Agent} {depth : Nat} {t command body name text : Text} (hw : HasPlainProcedures w)

include hw

lemma HasPlainProcedures.applyAll (effects : List Effect) : HasPlainProcedures (applyAll effects w) := by
  have hsame := (applyAll_definitions (w := w) effects).1
  exact ⟨hsame ▸ hw.names, hsame ▸ hw.bodies⟩

lemma isDispatched_of_body (found : w.procedures.get? name = some body) (checked : w.check agent body = .ok ())
    (hmem : command ∈ commands body) : IsDispatched w command := by
  rw [isDispatched_iff_isSpaced checked hmem]
  exact isSpaced_of_isEvenlySpaced (hw.bodies _ (Table.mem_of_get? found)) hmem

lemma isSpaced_of_isKnown (h : IsKnown w.procedures (command.cutAt ' ').1) : IsSpaced command := by
  rcases h with ⟨p, hp⟩ | hhas
  · rw [IsSpaced, Primitive.ofText?_eq_some_iff.mp hp]
    exact (isWord_name p).no_blank
  · obtain ⟨body, hbody⟩ := Option.isSome_iff_exists.mp hhas
    exact (hw.names _ (Table.mem_of_get? hbody)).no_blank

end Bodies

section Missing

variable {w : World} {agent : Agent} {depth : Nat} {t text : Text} {effects : List Effect}

lemma not_isDeclared_keyError : ¬ (Fault.foreign "KeyError".toList text).IsDeclared := by
  rintro ⟨⟩

lemma value_ne_keyError : w.value agent depth t ≠ .error (.fault (.foreign "KeyError".toList text)) := by
  intro h
  obtain ⟨names, place, origin, -, hstops, horigin⟩ := value_eq_error_iff_reaches.mp h
  rw [(through_eq_fault_iff not_isDeclared_keyError).mp horigin.symm] at hstops
  rcases hstops.of_not_isDeclared not_isDeclared_keyError with
    ⟨word, unread, -, -, -, hfault⟩ | ⟨a, b, _, -, -, -, hfault⟩ | ⟨left, -, -, hfault⟩
  · obtain ⟨text, hunread⟩ := exists_unreadInteger word unread
    simp [hunread] at hfault
  · simp [quotientTooLarge] at hfault
  · simp [tooLongInteger] at hfault

lemma Fails.ne_keyError {p : Primitive} : ¬ Fails agent depth w p t (.fault (.foreign "KeyError".toList text)) := by
  intro h
  generalize hstop : Stop.fault (.foreign "KeyError".toList text) = stop at h
  cases h with
  | amount value => exact value_ne_keyError (hstop ▸ value)
  | unwritten _ unwritten =>
    obtain ⟨-, rfl⟩ := text_eq_error_iff.mp unwritten
    simp [tooLongInteger] at hstop
  | notWhole => simp [badInteger] at hstop
  | assignment value => exact value_ne_keyError (hstop ▸ value)
  | error => simp [failed] at hstop

lemma Performs.missing_or_inside {command : Text}
    (h : Performs agent depth [command] w effects (.error (.fault (.foreign "KeyError".toList text)))) :
    (effects = [] ∧ ¬ IsKnown w.procedures (command.cutAt ' ').1 ∧ text = (command.cutAt ' ').1.quoted) ∨
      ∃ inner body, depth = inner + 1 ∧ w.procedures.get? (command.cutAt ' ').1 = some body ∧
        w.check agent body = .ok () ∧
        Performs agent inner (commands body) w effects (.error (.fault (.foreign "KeyError".toList text))) := by
  generalize hended : Except.error (Stop.fault (.foreign "KeyError".toList text)) = ended at h
  cases h with
  | primitive _ _ later =>
    subst hended
    cases later
  | called _ _ _ _ later =>
    subst hended
    cases later
  | failed _ fails =>
    cases hended
    exact absurd fails Fails.ne_keyError
  | missing name absent =>
    simp only [missingProcedure, Except.error.injEq, Stop.fault.injEq, Fault.foreign.injEq, true_and] at hended
    exact .inl ⟨rfl, not_isKnown_iff.mpr ⟨name, absent⟩, hended⟩
  | refused _ _ refused =>
    obtain ⟨message, rfl⟩ := exists_message_of_check refused
    cases hended
  | tooDeep => cases hended
  | stopped _ found checked inside =>
    obtain rfl := (calledBy_eq_fault_iff not_isDeclared_keyError).mp (Except.error.inj hended.symm)
    exact .inr ⟨_, _, rfl, found, checked, inside⟩

end Missing

section Turns

variable {w w' : World} {agent : Agent} {depth : Nat} {t command text : Text} {effects : List Effect}

lemma TakesTurn.ne_keyError (hw : HasPlainProcedures w) (hdispatched : ∀ command ∈ commands t, IsDispatched w command) :
    ¬ TakesTurn agent depth t w effects (.error (.fault (.foreign "KeyError".toList text))) := by
  intro h
  -- no effect touches a body, so that its commands are dispatched in the world in which it is called
  induction depth generalizing t w effects with
  | zero => cases h
  | succ depth ih =>
    cases h with
    | performs performs =>
      obtain ⟨before, command, after, done, last, htext, -, -, hstopped⟩ := performs.exists_stopped
      have hprocedures := (applyAll_definitions (w := w) done).1
      rcases hstopped.missing_or_inside with ⟨-, hunknown, -⟩ | ⟨inner, body, rfl, hfound, hchecked, hinside⟩
      · rw [hprocedures] at hunknown
        exact hunknown (hdispatched command (by simp [htext])).known
      · have hw' : HasPlainProcedures (applyAll done w) := hw.applyAll done
        exact ih hw' (fun _ hmem => isDispatched_of_body hw' hfound hchecked hmem) (.performs hinside)

lemma Performs.isKnown {cs : List Text} {procedures : Table Text} (h : Performs agent depth cs w effects (.ok ()))
    (hprocedures : w.procedures = procedures) (hmem : command ∈ cs) : IsKnown procedures (command.cutAt ' ').1 := by
  generalize hok : Except.ok () = ended at h
  induction h with
  | done => cases hmem
  | @primitive _ _ _ w _ effect _ _ name _ _ ih =>
    rcases List.mem_cons.mp hmem with rfl | hlater
    · exact .inl ⟨_, name⟩
    · exact ih ((applyAll_definitions [effect]).1.trans hprocedures) hlater hok
  | @called _ _ _ _ w effects _ _ _ found _ _ _ _ ih =>
    rcases List.mem_cons.mp hmem with rfl | hlater
    · right
      rw [← hprocedures, Table.has, found]
      rfl
    · exact ih ((applyAll_definitions effects).1.trans hprocedures) hlater hok
  | _ => cases hok

variable (hw : HasPlainProcedures w) (checked : w.check agent t = .ok ())

include hw checked

lemma exists_comesTo_of_keyError
    (h : TakesTurn agent depth t w effects (.error (.fault (.foreign "KeyError".toList text)))) :
    ∃ inner command, depth = inner + 1 ∧ ComesTo agent inner w t command (applyAll effects w) ∧ ¬ IsSpaced command ∧
      text = (command.cutAt ' ').1.quoted := by
  cases h with
  | performs performs =>
    obtain ⟨before, command, after, done, last, htext, rfl, hdone, hstopped⟩ := performs.exists_stopped
    have hcomes : ComesTo agent _ w t command (applyAll done w) := .after htext hdone
    have hw' : HasPlainProcedures (applyAll done w) := hw.applyAll done
    rcases hstopped.missing_or_inside with ⟨rfl, hunknown, htext⟩ | ⟨inner, body, rfl, hfound, hchecked, hinside⟩
    · rw [hcomes.procedures] at hunknown
      rw [List.append_nil]
      refine ⟨_, command, rfl, hcomes, fun hspaced => hunknown ?_, htext⟩
      exact ((isDispatched_iff_isSpaced checked hcomes.mem).mpr hspaced).known
    · refine absurd (TakesTurn.performs hinside) (TakesTurn.ne_keyError hw' fun _ hmem => ?_)
      exact isDispatched_of_body hw' hfound hchecked hmem

lemma takesTurns_keyError_iff {times : Nat} :
    (∃ turns, TakesTurns agent depth t times w turns (.error (.fault (.foreign "KeyError".toList text))) ∧
      w' = applyAll turns.flatten w) ↔
      0 < times ∧ ∃ inner command, depth = inner + 1 ∧ ComesTo agent inner w t command w' ∧ ¬ IsSpaced command ∧
        text = (command.cutAt ' ').1.quoted := by
  constructor
  · rintro ⟨turns, htakes, rfl⟩
    obtain ⟨before, done, last, hbefore, rfl, hdone, hlast⟩ := takesTurns_error_iff.mp htakes
    cases hdone with
    | done =>
      rw [List.nil_append, List.flatten_cons, List.flatten_nil, List.append_nil]
      exact ⟨hbefore, exists_comesTo_of_keyError hw checked hlast⟩
    | next turn later =>
      -- the first turn has found every command, and no procedure goes missing after that
      cases turn with
      | performs performs =>
        refine absurd hlast (TakesTurn.ne_keyError (hw.applyAll _) fun command hmem => ?_)
        have hspaced : IsSpaced command := isSpaced_of_isKnown hw (performs.isKnown rfl hmem)
        exact ((isDispatched_iff_isSpaced checked hmem).mpr hspaced).congr (applyAll_definitions _).1
  · rintro ⟨htimes, inner, command, rfl, hcomes, hspaced, rfl⟩
    have hunknown : ¬ IsKnown w'.procedures (command.cutAt ' ').1 := by
      rw [hcomes.procedures]
      exact fun hknown => hspaced (isSpaced_of_isKnown hw hknown)
    obtain ⟨hname, habsent⟩ := not_isKnown_iff.mp hunknown
    obtain ⟨all, hturn, hall⟩ := hcomes.takesTurn fun _ => .missing hname habsent
    refine ⟨[all], takesTurns_error_iff.mpr ⟨0, [], all, htimes, rfl, .done, hturn⟩, ?_⟩
    rw [List.flatten_cons, List.flatten_nil, List.append_nil, hall]
    rfl

end Turns

/-- Whatever calls were made before: a command in the body of a procedure is dispatched if the body passes the check,
and a command of a text that passes it is dispatched exactly if no other blank stands in front of its first space. A
procedure is missing in an execution exactly if the agent comes to a command of the text for which this fails. -/
theorem execute_keyError_iff (history : History) (agent : Agent) (depth : Nat) (t : Text) :
    (∀ name body, (afterCalls history {}).procedures.get? name = some body →
      (afterCalls history {}).check agent body = .ok () →
        ∀ command ∈ commands body, IsDispatched (afterCalls history {}) command) ∧
    ((afterCalls history {}).check agent t = .ok () →
      ∀ command ∈ commands t, IsDispatched (afterCalls history {}) command ↔ IsSpaced command) ∧
    ∀ text w', execute depth t agent (afterCalls history {}) =
        (.error (.fault (.foreign "KeyError".toList text)), w') ↔
      (afterCalls history {}).check agent t = .ok () ∧ 0 < turnCount agent (afterCalls history {}) ∧
        ∃ inner command, depth = inner + 1 ∧ ComesTo agent inner (afterCalls history {}) t command w' ∧
          ¬ IsSpaced command ∧ text = (command.cutAt ' ').1.quoted := by
  obtain ⟨w, hafter⟩ : ∃ w, afterCalls history {} = w := ⟨_, rfl⟩
  have hw : HasPlainProcedures w := hafter ▸ hasPlainProcedures_afterCalls history
  rw [hafter]
  refine ⟨fun name body hfound hchecked command hmem => isDispatched_of_body hw hfound hchecked hmem,
    fun hchecked command hmem => isDispatched_iff_isSpaced hchecked hmem, fun text w' => ?_⟩
  rw [execute_eq_iff]
  constructor
  · rintro ⟨turns, hexecutes, rfl⟩
    generalize hended : Except.error (Stop.fault (.foreign "KeyError".toList text)) = ended at hexecutes
    cases hexecutes with
    | refused check =>
      obtain ⟨_, rfl⟩ := exists_message_of_check check
      cases hended
    | taken check takes =>
      subst hended
      exact ⟨check, (takesTurns_keyError_iff hw check).mp ⟨turns, takes, rfl⟩⟩
  · rintro ⟨hcheck, hcomes⟩
    obtain ⟨turns, htakes, rfl⟩ := (takesTurns_keyError_iff hw hcheck).mpr hcomes
    exact ⟨turns, .taken hcheck htakes, rfl⟩

theorem execute_keyError_after_procedure :
    let history : History := [(depthLimit, .compile "to p crt 1 end".toList)]
    (∀ command ∈ commands "crt 1".toList, IsDispatched (afterCalls history {}) command) ∧
      ∃ inner command, 3 = inner + 1 ∧
        ComesTo .observer inner (afterCalls history {}) "p ; crt\t1".toList command
          { afterCalls history {} with turtles := 1 } ∧
        ¬ IsSpaced command ∧ "'crt\\t1'".toList = (command.cutAt ' ').1.quoted := by
  intro history
  obtain ⟨hbodies, -, hmissing⟩ := execute_keyError_iff history .observer 3 "p ; crt\t1".toList
  refine ⟨hbodies "p".toList _ (by decide +kernel) (by decide +kernel), ?_⟩
  exact ((hmissing _ _).mp (by decide +kernel)).2.2

/-- A tabulator ends the name for the check, and not for running. -/
theorem execute_behind_tab :
    World.check {} .observer "crt\t1".toList = .ok () ∧
      execute depthLimit "crt\t1".toList .observer {} =
        (.error (.fault (missingProcedure "crt\t1".toList)), {}) := by
  decide +kernel

end SuiteRunner.Proofs
