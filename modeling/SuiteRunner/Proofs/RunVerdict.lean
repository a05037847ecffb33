import SuiteRunner.Engine.Scripted
import SuiteRunner.Proofs.Exchanges
import SuiteRunner.Proofs.Fallible

/-!
# The verdict of a run

Two relations say how a run of a test in a mode goes: how the test comes off on an engine that was started, and what the
run is reported as once the engine was disposed of. The runner follows them, whatever the engine does. A run has no
verdict where a fault that has to be told cannot be.
-/

namespace SuiteRunner.Proofs

/-- The sources that are compiled before the first statement. -/
def firstSources (test : TestCase) : List Text :=
  if test.definitions = [] then [] else [test.definitions]

/-- The calls of a run that was started, with those of its statements in the middle. -/
def lifecycle (test : TestCase) (mode : Mode) (calls : List CallRecord) : List CallRecord :=
  .start mode test.fullName true :: .compile test.definitions :: (calls ++ [.dispose])

/-- The definitions compile, and the run goes through all its exchanges, each of which behaves. -/
def Completes {σ : Type} (engine : Engine σ) (test : TestCase) (s : σ) (all : List (Exchange σ)) (s' : σ) : Prop :=
  ∃ ready, engine.compile test.definitions s = (.ok (), ready) ∧
    exchanges engine (firstSources test) test.executable ready = all ∧ (∀ e ∈ all, e.Behaves) ∧ stateAfter ready all = s'

/-- How the test comes off from a state in which the engine was started, the calls of its statements and the state that
they leave. -/
inductive ComesOff {σ : Type} (engine : Engine σ) (test : TestCase) (s : σ) : Ending → List CallRecord → σ → Prop
  | notCompiled {fault : Fault} {s' : σ} (compile : engine.compile test.definitions s = (.error fault, s')) :
      ComesOff engine test s (.told 0 "procedure definitions".toList (fault.describe.map .unexpected)) [] s'
  | misbehaved {ready : σ} {before after : List (Exchange σ)} {e : Exchange σ} {fault : Fault}
      (compile : engine.compile test.definitions s = (.ok (), ready))
      (split : exchanges engine (firstSources test) test.executable ready = before ++ e :: after)
      (behave : ∀ b ∈ before, b.Behaves) (misbehaves : e.Misbehaves fault) :
      ComesOff engine test s (.told (before.length + 1) e.statement.source (FailureCause.ofFault fault))
        ((before ++ [e]).map (·.call)) e.state
  | foreign {all : List (Exchange σ)} {s' : σ} (completes : Completes engine test s all s')
      (object : none ∈ test.executable) :
      ComesOff engine test s (.raised (.foreign "TypeError".toList "not a statement: NoneType".toList))
        (all.map (·.call)) s'
  | completed {all : List (Exchange σ)} {s' : σ} (completes : Completes engine test s all s')
      (statements : none ∉ test.executable) : ComesOff engine test s .completed (all.map (·.call)) s'

/-- The verdict on a run that fails outside its statements, unless the fault cannot be told. -/
def setupVerdict (fault : Fault) : Except Fault Verdict :=
  fault.describe.map fun text => .failed ⟨0, "runtime setup/teardown".toList, .unexpected text⟩

/-- A run of the test in the mode from a state `s`: its verdict, or the fault that it raises instead, its calls and the
state it leaves. A failure of the test counts before one of the disposal, and that before a fault that was raised. -/
inductive RunsTo {σ : Type} (engine : Engine σ) (test : TestCase) (mode : Mode) (s : σ) :
    Except Fault Verdict → List CallRecord → σ → Prop
  | notStarted {fault : Fault} {s' : σ} (start : engine.start mode test.fullName s = (.error fault, s')) :
      RunsTo engine test mode s (setupVerdict fault.leavingScope) [.start mode test.fullName false] s'
  | failed {started performed s' : σ} {failure : Failure} {calls : List CallRecord} {disposal : Except Fault Unit}
      (start : engine.start mode test.fullName s = (.ok (), started))
      (performs : ComesOff engine test started (.failed failure) calls performed)
      (dispose : engine.dispose performed = (disposal, s'))
      (told : ∀ fault, disposal = .error fault → ∃ text, fault.leavingScope.describe = .ok text) :
      RunsTo engine test mode s (.ok (.failed failure)) (lifecycle test mode calls) s'
  | untold {started performed s' : σ} {failure : Failure} {calls : List CallRecord} {fault raised : Fault}
      (start : engine.start mode test.fullName s = (.ok (), started))
      (performs : ComesOff engine test started (.failed failure) calls performed)
      (dispose : engine.dispose performed = (.error fault, s'))
      (untold : fault.leavingScope.describe = .error raised) :
      RunsTo engine test mode s (.error raised) (lifecycle test mode calls) s'
  | notDisposed {started performed s' : σ} {ending : Ending} {calls : List CallRecord} {fault : Fault}
      (start : engine.start mode test.fullName s = (.ok (), started))
      (performs : ComesOff engine test started ending calls performed) (unfailed : ∀ failure, ending ≠ .failed failure)
      (dispose : engine.dispose performed = (.error fault, s')) :
      RunsTo engine test mode s (setupVerdict fault.leavingScope) (lifecycle test mode calls) s'
  | raised {started performed s' : σ} {calls : List CallRecord} {fault : Fault}
      (start : engine.start mode test.fullName s = (.ok (), started))
      (performs : ComesOff engine test started (.raised fault) calls performed)
      (dispose : engine.dispose performed = (.ok (), s')) :
      RunsTo engine test mode s (setupVerdict fault) (lifecycle test mode calls) s'
  | passed {started performed s' : σ} {calls : List CallRecord}
      (start : engine.start mode test.fullName s = (.ok (), started))
      (performs : ComesOff engine test started .completed calls performed)
      (dispose : engine.dispose performed = (.ok (), s')) :
      RunsTo engine test mode s (.ok .passed) (lifecycle test mode calls) s'

section Told

lemma setupVerdict_eq_ok {fault : Fault} {verdict : Verdict} (h : setupVerdict fault = .ok verdict) :
    ∃ text, fault.describe = .ok text ∧
      verdict = .failed ⟨0, "runtime setup/teardown".toList, .unexpected text⟩ := by
  obtain ⟨text, htext, rfl⟩ := map_eq_ok_iff.mp h
  exact ⟨text, htext, rfl⟩

lemma told_eq_failed {index : Nat} {source : Text} {cause : Except Fault FailureCause} {failure : Failure}
    (h : Ending.told index source cause = .failed failure) :
    ∃ known, cause = .ok known ∧ failure = ⟨index, source, known⟩ := by
  cases cause with
  | error raised => cases h
  | ok known => exact ⟨known, rfl, (Ending.failed.inj h).symm⟩

end Told

section Runs

variable {σ : Type} (engine : Engine σ) (test : TestCase) (mode : Mode)

lemma exists_comesOff (s : σ) : ∃ ending calls s', ComesOff engine test s ending calls s' := by
  rcases hcompile : engine.compile test.definitions s with ⟨_ | ⟨⟨⟩⟩, ready⟩
  · exact ⟨_, _, _, .notCompiled hcompile⟩
  rcases first_misbehaves (exchanges engine (firstSources test) test.executable ready) with
    hall | ⟨before, e, after, fault, hsplit, hbefore, he⟩
  · have hcompletes : Completes engine test s (exchanges engine (firstSources test) test.executable ready) _ :=
      ⟨ready, hcompile, rfl, hall, rfl⟩
    by_cases hobject : none ∈ test.executable
    · exact ⟨_, _, _, .foreign hcompletes hobject⟩
    · exact ⟨_, _, _, .completed hcompletes hobject⟩
  · exact ⟨_, _, _, .misbehaved hcompile hsplit hbefore he⟩

lemma exists_runsTo (s : σ) : ∃ verdict calls s', RunsTo engine test mode s verdict calls s' := by
  rcases hstart : engine.start mode test.fullName s with ⟨_ | ⟨⟨⟩⟩, started⟩
  · exact ⟨_, _, _, .notStarted hstart⟩
  obtain ⟨ending, calls, performed, hperforms⟩ := exists_comesOff engine test started
  rcases hdispose : engine.dispose performed with ⟨fault | ⟨⟨⟩⟩, s'⟩
  · cases ending with
    | completed => exact ⟨_, _, _, .notDisposed hstart hperforms nofun hdispose⟩
    | raised raised => exact ⟨_, _, _, .notDisposed hstart hperforms nofun hdispose⟩
    | failed failure =>
      cases htold : fault.leavingScope.describe with
      | error raised => exact ⟨_, _, _, .untold hstart hperforms hdispose htold⟩
      | ok text =>
        refine ⟨_, _, _, .failed hstart hperforms hdispose ?_⟩
        rintro _ ⟨rfl⟩
        exact ⟨text, htold⟩
  · cases ending with
    | completed => exact ⟨_, _, _, .passed hstart hperforms hdispose⟩
    | raised raised => exact ⟨_, _, _, .raised hstart hperforms hdispose⟩
    | failed failure => exact ⟨_, _, _, .failed hstart hperforms hdispose nofun⟩

/-- The verdict on a run that ends with this failure. -/
def verdictOf : Option Failure → Verdict
  | none => .passed
  | some failure => .failed failure

lemma runInMode_value (s : σ) :
    (engine.runInMode test mode s).value =
      ((engine.attempt test mode s).value.map verdictOf).map (⟨test.fullName, mode, ·⟩) := by
  rw [Engine.runInMode, Logged.andThen]
  rcases (engine.attempt test mode s).value with raised | _ | failure <;> rfl

lemma runInMode_state (s : σ) : (engine.runInMode test mode s).state = (engine.attempt test mode s).state := by
  rw [Engine.runInMode, Logged.andThen]
  rcases (engine.attempt test mode s).value with raised | _ | failure <;> rfl

variable {engine test mode}

lemma attempt_of_start {s started : σ} (hstart : engine.start mode test.fullName s = (.ok (), started))
    {ending : Ending} {performed s' : σ} {disposal : Except Fault Unit}
    (hvalue : (engine.performTest test started).value = ending)
    (hstate : (engine.performTest test started).state = performed)
    (hdispose : engine.dispose performed = (disposal, s')) :
    (engine.attempt test mode s).value = Engine.failureAfter ending disposal ∧
      (engine.attempt test mode s).state = s' := by
  subst hvalue hstate
  rw [Engine.attempt, hstart]
  simp only [hdispose, and_self]

lemma performTest_of_compile {started ready : σ} (hcompile : engine.compile test.definitions started = (.ok (), ready)) :
    engine.performTest test started =
      engine.performAll test.fullName 1 (firstSources test) test.executable ready := by
  rw [Engine.performTest, hcompile, firstSources]
  simp only [List.isEmpty_iff]

lemma performTest_of_not_compile {started compiled : σ} {fault : Fault}
    (hcompile : engine.compile test.definitions started = (.error fault, compiled)) :
    (engine.performTest test started).value = .told 0 definitionsSource (fault.describe.map .unexpected) ∧
      (engine.performTest test started).state = compiled := by
  rw [Engine.performTest, hcompile]
  exact ⟨rfl, rfl⟩

lemma performTest_of_completes {s s' : σ} {all : List (Exchange σ)} (h : Completes engine test s all s') :
    (engine.performTest test s).value = (if none ∈ test.executable then .raised notAStatement else .completed) ∧
      (engine.performTest test s).state = s' := by
  obtain ⟨ready, hcompile, rfl, hall, rfl⟩ := h
  rw [performTest_of_compile hcompile]
  exact performAll_of_behaves engine test.fullName 1 _ _ _ hall

theorem performTest_of_comesOff {s s' : σ} {ending : Ending} {calls : List CallRecord}
    (h : ComesOff engine test s ending calls s') :
    (engine.performTest test s).value = ending ∧ (engine.performTest test s).state = s' := by
  cases h with
  | notCompiled compile => exact performTest_of_not_compile compile
  | misbehaved compile split behave misbehaves =>
    have hrun := performAll_of_misbehaves engine test.fullName behave misbehaves 1 _ _ _ split
    rw [← performTest_of_compile compile, Nat.add_comm] at hrun
    exact hrun
  | foreign completes object =>
    have hrun := performTest_of_completes completes
    rwa [if_pos object] at hrun
  | completed completes statements =>
    have hrun := performTest_of_completes completes
    rwa [if_neg statements] at hrun

lemma attempt_of_comesOff {s started performed s' : σ} {ending : Ending} {calls : List CallRecord}
    {disposal : Except Fault Unit} (hstart : engine.start mode test.fullName s = (.ok (), started))
    (hperforms : ComesOff engine test started ending calls performed)
    (hdispose : engine.dispose performed = (disposal, s')) :
    (engine.attempt test mode s).value = Engine.failureAfter ending disposal ∧
      (engine.attempt test mode s).state = s' := by
  obtain ⟨hvalue, hstate⟩ := performTest_of_comesOff hperforms
  exact attempt_of_start hstart hvalue hstate hdispose

lemma map_outside (fault : Fault) :
    ((Failure.outside setupSource fault).map some).map verdictOf = setupVerdict fault := by
  rw [Failure.outside, setupVerdict]
  cases fault.describe <;> rfl

lemma attempt_of_runsTo {s s' : σ} {verdict : Except Fault Verdict} {calls : List CallRecord}
    (h : RunsTo engine test mode s verdict calls s') :
    (engine.attempt test mode s).value.map verdictOf = verdict ∧ (engine.attempt test mode s).state = s' := by
  cases h with
  | notStarted start =>
    rw [Engine.attempt, start]
    exact ⟨map_outside _, rfl⟩
  | @failed _ _ _ _ _ disposal start performs dispose told =>
    obtain ⟨hvalue, hstate⟩ := attempt_of_comesOff start performs dispose
    refine ⟨?_, hstate⟩
    rw [hvalue]
    cases disposal with
    | ok => rfl
    | error fault =>
      obtain ⟨text, htext⟩ := told fault rfl
      rw [Engine.failureAfter, htext]
      rfl
  | untold start performs dispose untold =>
    obtain ⟨hvalue, hstate⟩ := attempt_of_comesOff start performs dispose
    refine ⟨?_, hstate⟩
    rw [hvalue, Engine.failureAfter, untold]
    rfl
  | @notDisposed _ _ _ ending _ fault start performs unfailed dispose =>
    obtain ⟨hvalue, hstate⟩ := attempt_of_comesOff start performs dispose
    refine ⟨?_, hstate⟩
    rw [hvalue]
    cases ending with
    | failed failure => exact absurd rfl (unfailed failure)
    | completed => exact map_outside _
    | raised raised => exact map_outside _
  | raised start performs dispose =>
    obtain ⟨hvalue, hstate⟩ := attempt_of_comesOff start performs dispose
    rw [hvalue]
    exact ⟨map_outside _, hstate⟩
  | passed start performs dispose =>
    obtain ⟨hvalue, hstate⟩ := attempt_of_comesOff start performs dispose
    rw [hvalue]
    exact ⟨rfl, hstate⟩

/-- The runner follows the relation. -/
theorem runInMode_of_runsTo {s s' : σ} {verdict : Except Fault Verdict} {calls : List CallRecord}
    (h : RunsTo engine test mode s verdict calls s') :
    (engine.runInMode test mode s).value = verdict.map (⟨test.fullName, mode, ·⟩) ∧
      (engine.runInMode test mode s).state = s' := by
  obtain ⟨hvalue, hstate⟩ := attempt_of_runsTo h
  rw [runInMode_value, runInMode_state, hvalue]
  exact ⟨rfl, hstate⟩

lemma RunsTo.unique {s s' t' : σ} {verdict other : Except Fault Verdict} {calls others : List CallRecord}
    (h : RunsTo engine test mode s verdict calls s') (h' : RunsTo engine test mode s other others t') :
    verdict = other ∧ s' = t' := by
  obtain ⟨rfl, rfl⟩ := attempt_of_runsTo h
  exact attempt_of_runsTo h'

lemma RunsTo.verdict_cases {s s' : σ} {verdict : Verdict} {calls : List CallRecord}
    (h : RunsTo engine test mode s (.ok verdict) calls s') :
    verdict = .passed ∨ ∃ failure, verdict = .failed failure := by
  obtain ⟨hvalue, -⟩ := attempt_of_runsTo h
  cases hattempt : (engine.attempt test mode s).value with
  | error raised =>
    rw [hattempt] at hvalue
    cases hvalue
  | ok failure =>
    rw [hattempt] at hvalue
    obtain rfl := Except.ok.inj hvalue
    cases failure with
    | none => exact .inl rfl
    | some failure => exact .inr ⟨failure, rfl⟩

section Faults

variable {P : Fault → Prop} {call : CallRecord} {s s' : σ} {fault : Fault}

lemma OnlyRaises.start (h : OnlyRaises engine P) {owner : Text}
    (hstart : engine.start mode owner s = (.error fault, s')) : P fault := by
  refine h (.start mode owner true) s fault ?_
  rw [makeCall, silent, hstart]
  rfl

lemma OnlyRaises.compile (h : OnlyRaises engine P) {source : Text}
    (hcompile : engine.compile source s = (.error fault, s')) : P fault := by
  refine h (.compile source) s fault ?_
  rw [makeCall, silent, hcompile]
  rfl

lemma OnlyRaises.dispose (h : OnlyRaises engine P) (hdispose : engine.dispose s = (.error fault, s')) : P fault := by
  refine h .dispose s fault ?_
  rw [makeCall, silent, hdispose]
  rfl

lemma OnlyRaises.exchange (h : OnlyRaises engine P) {sources : List Text} {elements : List Element} {e : Exchange σ}
    (he : e ∈ exchanges engine sources elements s) (hanswer : e.answer = .error fault) : P fault := by
  induction elements generalizing sources s with
  | nil => exact absurd he List.not_mem_nil
  | cons element rest ih =>
    cases element with
    | none => exact absurd he List.not_mem_nil
    | some statement =>
      rcases List.mem_cons.mp he with rfl | he
      · exact h _ s fault hanswer
      · exact ih he

lemma OnlyRaises.of_split (h : OnlyRaises engine P) {sources : List Text} {elements : List Element}
    {before after : List (Exchange σ)} {e : Exchange σ}
    (hsplit : exchanges engine sources elements s = before ++ e :: after) (hanswer : e.answer = .error fault) :
    P fault := by
  have he : e ∈ exchanges engine sources elements s := by
    rw [hsplit]
    exact List.mem_append_right _ List.mem_cons_self
  exact h.exchange he hanswer

lemma IsReadable.exists_setupVerdict (h : IsReadable fault) : ∃ verdict, setupVerdict fault = .ok verdict := by
  obtain ⟨text, htext⟩ := h.exists_describe
  rw [setupVerdict, htext]
  exact ⟨_, rfl⟩

lemma ComesOff.of_raised {ending : Ending} {calls : List CallRecord} (h : ComesOff engine test s ending calls s')
    (hreadable : OnlyRaises engine IsReadable) (hraised : ending = .raised fault) :
    none ∈ test.executable ∧ IsReadable fault := by
  cases h with
  | notCompiled compile =>
    obtain ⟨text, htext⟩ := (hreadable.compile compile).exists_describe
    rw [htext] at hraised
    cases hraised
  | misbehaved compile split behave misbehaves =>
    have hfault := misbehaves.isReadable fun raised hanswer => hreadable.of_split split hanswer
    obtain ⟨cause, hcause⟩ := hfault.exists_cause
    rw [hcause] at hraised
    cases hraised
  | foreign completes object =>
    obtain rfl := Ending.raised.inj hraised
    exact ⟨object, trivial⟩
  | completed => cases hraised

/-- A run on an engine whose faults can be read comes to a verdict. -/
theorem RunsTo.exists_verdict {verdict : Except Fault Verdict} {calls : List CallRecord}
    (h : RunsTo engine test mode s verdict calls s') (hreadable : OnlyRaises engine IsReadable) :
    ∃ told, verdict = .ok told := by
  cases h with
  | notStarted start => exact (hreadable.start start).leavingScope.exists_setupVerdict
  | failed => exact ⟨_, rfl⟩
  | untold start performs dispose untold =>
    obtain ⟨text, htext⟩ := (hreadable.dispose dispose).leavingScope.exists_describe
    cases untold.symm.trans htext
  | notDisposed start performs unfailed dispose => exact (hreadable.dispose dispose).leavingScope.exists_setupVerdict
  | raised start performs dispose => exact (performs.of_raised hreadable rfl).2.exists_setupVerdict
  | passed => exact ⟨_, rfl⟩

end Faults

section Scripts

/-- The fault comes up in the script. -/
inductive Raises (script : Script) (fault : Fault) : Prop
  | entry {t : Text} (entry : (t, .fault fault) ∈ script.entries)
  | start (start : script.start = some fault)
  | dispose (dispose : script.dispose = some fault)

lemma eq_of_raise {scripted : Option Fault} {fault : Fault} (h : Script.raise scripted = .error fault) :
    scripted = some fault := by
  cases scripted with
  | none => cases h
  | some other =>
    obtain rfl := Except.error.inj h
    rfl

lemma raises_of_lookup {script : Script} {t : Text} {fault : Fault}
    (h : script.entries.lookup t = some (.fault fault)) : Raises script fault := by
  obtain ⟨before, after, hentries, -⟩ := List.lookup_eq_some_iff.mp h
  refine .entry (t := t) ?_
  rw [hentries]
  exact List.mem_append_right _ List.mem_cons_self

lemma raises_of_answer {script : Script} {t value : Text} {fault : Fault}
    (h : script.answer t value = .error fault) : Raises script fault := by
  rw [Script.answer] at h
  split at h
  · cases h
  · cases h
  · next hlookup =>
    obtain rfl := Except.error.inj h
    exact raises_of_lookup hlookup

lemma raises_of_check {script : Script} {t : Text} {fault : Fault} (h : script.check t = .error fault) :
    Raises script fault := by
  rw [Script.check] at h
  split at h
  · next hlookup =>
    split at h
    · obtain rfl := Except.error.inj h
      exact raises_of_lookup hlookup
    · cases h
  · cases h

lemma onlyRaises_scripted {script : Mode → Script} {P : Fault → Prop}
    (h : ∀ mode fault, Raises (script mode) fault → P fault) : OnlyRaises (Engine.scripted script) P := by
  intro call s fault hcall
  cases call with
  | start mode owner => exact h mode fault (.start (eq_of_raise (map_eq_error_iff.mp hcall)))
  | compile source => exact h s fault (raises_of_answer (map_eq_error_iff.mp (map_eq_error_iff.mp hcall)))
  | compileCommand text agent => exact h s fault (raises_of_check (map_eq_error_iff.mp hcall))
  | execute text agent => exact h s fault (raises_of_answer (map_eq_error_iff.mp (map_eq_error_iff.mp hcall)))
  | evaluate text agent => exact h s fault (raises_of_answer hcall)
  | openModel path => exact h s fault (raises_of_answer (map_eq_error_iff.mp (map_eq_error_iff.mp hcall)))
  | dispose => exact h s fault (.dispose (eq_of_raise (map_eq_error_iff.mp hcall)))

lemma onlyRaises_silent (P : Fault → Prop) : OnlyRaises (Engine.scripted fun _ => {}) P := by
  refine onlyRaises_scripted fun mode fault hraises => ?_
  cases hraises with
  | entry entry => exact absurd entry List.not_mem_nil
  | start start => cases start
  | dispose dispose => cases dispose

end Scripts

/-- A disposal that fails does not hide the statement that failed before it. -/
example :
    ((Engine.scripted fun _ => { dispose := some (.general "stuck".toList) }).runInMode
      (TestCase.ofStatements [] "sum".toList [.expression "1 + 1".toList (.result "2".toList)]) .run .normal).value =
        .ok ⟨"::sum".toList, .run, .failed ⟨1, "1 + 1 => 2".toList, .mismatch "2".toList "0".toList⟩⟩ := by
  rfl

end Runs

end SuiteRunner.Proofs
