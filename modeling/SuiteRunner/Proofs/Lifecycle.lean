import SuiteRunner.Engine.Recorded
import SuiteRunner.Proofs.RunVerdict

/-!
# The calls of a session

A session makes its runs one after the other. What an engine with a record of its calls has in the record after a
session is what the runs make, each from its start to its one disposal.
-/

namespace SuiteRunner.Proofs

section Recording

variable {σ : Type} (engine : Engine σ)

/-- The exchange as the engine with a record makes it. -/
def Exchange.recorded (record : List CallRecord) (e : Exchange σ) : Exchange (σ × List CallRecord) where
  statement := e.statement
  call := e.call
  answer := e.answer
  state := (e.state, record ++ [e.call])

def recordedAlong : List CallRecord → List (Exchange σ) → List (Exchange (σ × List CallRecord))
  | _, [] => []
  | record, e :: rest => e.recorded record :: recordedAlong (record ++ [e.call]) rest

lemma recordedAlong_append (record : List CallRecord) (before after : List (Exchange σ)) :
    recordedAlong record (before ++ after) =
      recordedAlong record before ++ recordedAlong (record ++ before.map (·.call)) after := by
  induction before generalizing record with
  | nil => simp [recordedAlong]
  | cons e before ih => simp [recordedAlong, ih]

lemma recordedAlong_calls (record : List CallRecord) (made : List (Exchange σ)) :
    (recordedAlong record made).map (·.call) = made.map (·.call) := by
  induction made generalizing record with
  | nil => rfl
  | cons e made ih => simp [recordedAlong, Exchange.recorded, ih]

lemma recordedAlong_behave {made : List (Exchange σ)} (h : ∀ e ∈ made, e.Behaves) (record : List CallRecord) :
    ∀ e ∈ recordedAlong record made, e.Behaves := by
  induction made generalizing record with
  | nil => exact fun _ he => absurd he List.not_mem_nil
  | cons e made ih =>
    obtain ⟨he, hmade⟩ := List.forall_mem_cons.mp h
    exact List.forall_mem_cons.mpr ⟨he, ih hmade _⟩

lemma stateAfter_recordedAlong (s : σ) (record : List CallRecord) (made : List (Exchange σ)) :
    stateAfter (s, record) (recordedAlong record made) = (stateAfter s made, record ++ made.map (·.call)) := by
  induction made generalizing s record with
  | nil => simp [recordedAlong, stateAfter]
  | cons e made ih =>
    have hnext := ih e.state (record ++ [e.call])
    rw [List.append_assoc] at hnext
    exact hnext

lemma exchange_recorded (sources : List Text) (statement : Statement) (s : σ) (record : List CallRecord) :
    exchange engine.recorded sources statement (s, record) = (exchange engine sources statement s).recorded record := by
  cases statement with
  | command agent text expected => cases expected <;> rfl
  | _ => rfl

lemma exchanges_recorded (sources : List Text) (elements : List Element) (s : σ) (record : List CallRecord) :
    exchanges engine.recorded sources elements (s, record) =
      recordedAlong record (exchanges engine sources elements s) := by
  induction elements generalizing sources s record with
  | nil => rfl
  | cons element rest ih =>
    cases element with
    | none => rfl
    | some statement =>
      rw [exchanges, exchanges, exchange_recorded, recordedAlong]
      exact congrArg _ (ih _ _ _)

variable {engine} {test : TestCase} {mode : Mode}

lemma start_recorded {s s' : σ} {answer : Except Fault Unit} (h : engine.start mode test.fullName s = (answer, s'))
    (record : List CallRecord) :
    engine.recorded.start mode test.fullName (s, record) =
      (answer, s', record ++ [.start mode test.fullName answer.isOk]) := by
  simp [Engine.recorded, h]

lemma compile_recorded {source : Text} {s s' : σ} {answer : Except Fault Unit}
    (h : engine.compile source s = (answer, s')) (record : List CallRecord) :
    engine.recorded.compile source (s, record) = (answer, s', record ++ [.compile source]) := by
  simp [Engine.recorded, Call.recording, h]

lemma dispose_recorded (test : TestCase) (mode : Mode) {s s' : σ} {disposal : Except Fault Unit}
    (h : engine.dispose s = (disposal, s')) (record calls : List CallRecord) :
    engine.recorded.dispose (s, record ++ [.start mode test.fullName true] ++ .compile test.definitions :: calls) =
      (disposal, s', record ++ lifecycle test mode calls) := by
  simp [Engine.recorded, Call.recording, h, lifecycle]

lemma Completes.recorded {s s' : σ} {all : List (Exchange σ)} (h : Completes engine test s all s')
    (record : List CallRecord) :
    Completes engine.recorded test (s, record) (recordedAlong (record ++ [.compile test.definitions]) all)
      (s', record ++ .compile test.definitions :: all.map (·.call)) := by
  obtain ⟨ready, hcompile, rfl, hall, rfl⟩ := h
  refine ⟨_, compile_recorded hcompile record, exchanges_recorded engine _ _ _ _, recordedAlong_behave hall _, ?_⟩
  rw [stateAfter_recordedAlong, List.append_assoc]
  rfl

lemma exchanges_split_recorded {elements : List Element} {sources : List Text} {ready : σ}
    {before after : List (Exchange σ)} {e : Exchange σ}
    (h : exchanges engine sources elements ready = before ++ e :: after) (record : List CallRecord) :
    exchanges engine.recorded sources elements (ready, record) =
      recordedAlong record before ++ e.recorded (record ++ before.map (·.call)) ::
        recordedAlong (record ++ before.map (·.call) ++ [e.call]) after := by
  rw [exchanges_recorded, h, recordedAlong_append, recordedAlong]

theorem ComesOff.recorded {s s' : σ} {ending : Ending} {calls : List CallRecord}
    (h : ComesOff engine test s ending calls s') (record : List CallRecord) :
    ComesOff engine.recorded test (s, record) ending calls (s', record ++ .compile test.definitions :: calls) := by
  -- the record once the statements begin
  let opened := record ++ [.compile test.definitions]
  cases h with
  | notCompiled compile => exact .notCompiled (compile_recorded compile record)
  | @misbehaved ready before after e fault compile split behave misbehaves =>
    -- recording keeps the split in place, so the same exchange is the first to misbehave
    let stopped := e.recorded (opened ++ before.map (·.call))
    have hcalls : (recordedAlong opened before ++ [stopped]).map (·.call) = (before ++ [e]).map (·.call) := by
      rw [List.map_append, recordedAlong_calls, List.map_append]
      rfl
    have hlength : (recordedAlong opened before).length = before.length := by
      simpa using congrArg List.length (recordedAlong_calls opened before)
    have hstate : stopped.state = (e.state, record ++ .compile test.definitions :: (before ++ [e]).map (·.call)) := by
      simp [stopped, opened, Exchange.recorded]
    rw [← hstate, ← hcalls, ← hlength]
    exact .misbehaved (compile_recorded compile record) (exchanges_split_recorded split opened)
      (recordedAlong_behave behave opened) misbehaves
  | foreign completes object =>
    have hrecorded := completes.recorded record
    rw [← recordedAlong_calls opened] at hrecorded ⊢
    exact .foreign hrecorded object
  | completed completes statements =>
    have hrecorded := completes.recorded record
    rw [← recordedAlong_calls opened] at hrecorded ⊢
    exact .completed hrecorded statements

/-- The engine with a record runs a test as the engine itself does, and has the calls of the run in its record. -/
theorem RunsTo.recorded {s s' : σ} {verdict : Except Fault Verdict} {calls : List CallRecord}
    (h : RunsTo engine test mode s verdict calls s') (record : List CallRecord) :
    RunsTo engine.recorded test mode (s, record) verdict calls (s', record ++ calls) := by
  cases h with
  | notStarted start => exact .notStarted (start_recorded start record)
  | failed start performs dispose told =>
    exact .failed (start_recorded start record) (performs.recorded _) (dispose_recorded test mode dispose record _) told
  | untold start performs dispose untold =>
    exact .untold (start_recorded start record) (performs.recorded _) (dispose_recorded test mode dispose record _)
      untold
  | notDisposed start performs unfailed dispose =>
    exact .notDisposed (start_recorded start record) (performs.recorded _) unfailed
      (dispose_recorded test mode dispose record _)
  | raised start performs dispose =>
    exact .raised (start_recorded start record) (performs.recorded _) (dispose_recorded test mode dispose record _)
  | passed start performs dispose =>
    exact .passed (start_recorded start record) (performs.recorded _) (dispose_recorded test mode dispose record _)

end Recording

/-- The mode and the owner for which a call starts the engine. -/
def startOf? : CallRecord → Option (Mode × Text)
  | .start mode owner _ => some (mode, owner)
  | _ => none

lemma startOf?_callOf (sources : List Text) (statement : Statement) : startOf? (callOf sources statement) = none := by
  cases statement with
  | command agent text expected => cases expected <;> rfl
  | _ => rfl

lemma starts_of_exchanges {σ : Type} (engine : Engine σ) (sources : List Text) (elements : List Element) (s : σ) :
    ∀ e ∈ exchanges engine sources elements s, startOf? e.call = none := by
  induction elements generalizing sources s with
  | nil => exact fun _ he => absurd he List.not_mem_nil
  | cons element rest ih =>
    cases element with
    | none => exact fun _ he => absurd he List.not_mem_nil
    | some statement => exact List.forall_mem_cons.mpr ⟨startOf?_callOf sources statement, ih _ _⟩

lemma starts_lifecycle {σ : Type} (test : TestCase) (mode : Mode) {made : List (Exchange σ)}
    (h : ∀ e ∈ made, startOf? e.call = none) :
    (lifecycle test mode (made.map (·.call))).filterMap startOf? = [(mode, test.fullName)] := by
  have hmade : (made.map (·.call)).filterMap startOf? = [] := by
    rw [List.filterMap_eq_nil_iff]
    simpa using h
  change (mode, test.fullName) :: List.filterMap startOf? (made.map (·.call) ++ [.dispose]) = [(mode, test.fullName)]
  rw [List.filterMap_append, hmade]
  rfl

lemma ComesOff.starts {σ : Type} {engine : Engine σ} {test : TestCase} {s s' : σ} {ending : Ending}
    {calls : List CallRecord} (h : ComesOff engine test s ending calls s') (mode : Mode) :
    (lifecycle test mode calls).filterMap startOf? = [(mode, test.fullName)] := by
  cases h with
  | notCompiled => rfl
  | @misbehaved ready _ _ _ _ _ split =>
    apply starts_lifecycle
    have hall := starts_of_exchanges engine (firstSources test) test.executable ready
    rw [split, List.append_cons] at hall
    exact (List.forall_mem_append.mp hall).1
  | foreign completes =>
    obtain ⟨ready, -, rfl, -, -⟩ := completes
    exact starts_lifecycle test mode (starts_of_exchanges engine _ _ ready)
  | completed completes =>
    obtain ⟨ready, -, rfl, -, -⟩ := completes
    exact starts_lifecycle test mode (starts_of_exchanges engine _ _ ready)

/-- A run starts the engine once, for its own test and mode. -/
theorem RunsTo.starts {σ : Type} {engine : Engine σ} {test : TestCase} {mode : Mode} {s s' : σ}
    {verdict : Except Fault Verdict} {calls : List CallRecord} (h : RunsTo engine test mode s verdict calls s') :
    calls.filterMap startOf? = [(mode, test.fullName)] := by
  cases h with
  | notStarted => rfl
  | failed _ performs => exact performs.starts mode
  | untold _ performs => exact performs.starts mode
  | notDisposed _ performs => exact performs.starts mode
  | raised _ performs => exact performs.starts mode
  | passed _ performs => exact performs.starts mode

/-- The runs of a session: each test that the filter leaves, in its modes. -/
def sessionRuns (only : Option Text) (suites : List Suite) : List (TestCase × Mode) :=
  ((suites.flatMap (·.tests)).filter fun test =>
    only = none ∨ only = some test.name ∨ only = some test.fullName).flatMap fun test => test.modes.map (test, ·)

/-- The runs one after the other, each from the state that the one before it left, with their results and calls.
The runs of a test that does not apply are skipped. A run that raises a fault in place of a verdict is the last. -/
inductive Session {σ : Type} (engine : Engine σ) (env : Environment) :
    List (TestCase × Mode) → σ → Report → Option Fault → List CallRecord → σ → Prop
  | done {s : σ} : Session engine env [] s [] none [] s
  | skipped {test : TestCase} {mode : Mode} {runs : List (TestCase × Mode)} {s s' : σ} {report : Report}
      {stop : Option Fault} {calls : List CallRecord} (applies : test.applies env = false)
      (rest : Session engine env runs s report stop calls s') :
      Session engine env ((test, mode) :: runs) s (⟨test.fullName, mode, .skipped⟩ :: report) stop calls s'
  | run {test : TestCase} {mode : Mode} {runs : List (TestCase × Mode)} {s between s' : σ} {verdict : Verdict}
      {report : Report} {stop : Option Fault} {calls others : List CallRecord} (applies : test.applies env = true)
      (first : RunsTo engine test mode s (.ok verdict) calls between)
      (rest : Session engine env runs between report stop others s') :
      Session engine env ((test, mode) :: runs) s (⟨test.fullName, mode, verdict⟩ :: report) stop (calls ++ others) s'
  | stopped {test : TestCase} {mode : Mode} {runs : List (TestCase × Mode)} {s s' : σ} {raised : Fault}
      {calls : List CallRecord} (applies : test.applies env = true)
      (first : RunsTo engine test mode s (.error raised) calls s') :
      Session engine env ((test, mode) :: runs) s [] (some raised) calls s'

/-- What a session comes to: a fault that stopped it takes the place of the report. -/
def outcomeOf (report : Report) : Option Fault → Except Fault Report
  | none => .ok report
  | some raised => .error raised

section Sessions

variable {σ : Type} {engine : Engine σ} {env : Environment}

lemma exists_session (engine : Engine σ) (env : Environment) (runs : List (TestCase × Mode)) (s : σ) :
    ∃ report stop calls s', Session engine env runs s report stop calls s' := by
  induction runs generalizing s with
  | nil => exact ⟨_, _, _, _, .done⟩
  | cons run runs ih =>
    obtain ⟨test, mode⟩ := run
    cases happlies : test.applies env with
    | false =>
      obtain ⟨report, stop, calls, s', hrest⟩ := ih s
      exact ⟨_, _, _, _, .skipped happlies hrest⟩
    | true =>
      obtain ⟨raised | verdict, calls, between, hfirst⟩ := exists_runsTo engine test mode s
      · exact ⟨_, _, _, _, .stopped happlies hfirst⟩
      · obtain ⟨report, stop, others, s', hrest⟩ := ih between
        exact ⟨_, _, _, _, .run happlies hfirst hrest⟩

theorem Session.recorded {runs : List (TestCase × Mode)} {s s' : σ} {report : Report} {stop : Option Fault}
    {calls : List CallRecord} (h : Session engine env runs s report stop calls s') (record : List CallRecord) :
    Session engine.recorded env runs (s, record) report stop calls (s', record ++ calls) := by
  induction h generalizing record with
  | done =>
    rw [List.append_nil]
    exact .done
  | skipped applies _ ih => exact .skipped applies (ih record)
  | run applies first _ ih =>
    rw [← List.append_assoc]
    exact .run applies (first.recorded record) (ih _)
  | stopped applies first => exact .stopped applies (first.recorded record)

/-- The starts of a session are those of the runs that apply, in order, up to a run that stopped it. -/
theorem Session.starts {runs : List (TestCase × Mode)} {s s' : σ} {report : Report} {stop : Option Fault}
    {calls : List CallRecord} (h : Session engine env runs s report stop calls s') :
    calls.filterMap startOf? = ((runs.take (report.length + stop.toList.length)).filter fun run =>
      run.1.applies env).map fun run => (run.2, run.1.fullName) := by
  induction h with
  | done => rfl
  | skipped applies _ ih =>
    rw [List.length_cons, Nat.add_right_comm, List.take_succ_cons]
    simpa [applies] using ih
  | run applies first _ ih =>
    rw [List.length_cons, Nat.add_right_comm, List.take_succ_cons]
    simpa [applies, first.starts] using ih
  | stopped applies first => simp [applies, first.starts]

lemma Session.length_eq {runs : List (TestCase × Mode)} {s s' : σ} {report : Report} {calls : List CallRecord}
    (h : Session engine env runs s report none calls s') : report.length = runs.length := by
  generalize hstop : (none : Option Fault) = stop at h
  induction h with
  | done => rfl
  | skipped _ _ ih => exact congrArg Nat.succ (ih hstop)
  | run _ _ _ ih => exact congrArg Nat.succ (ih hstop)
  | stopped => cases hstop

/-- No fault stops a session on an engine whose faults can be read. -/
theorem Session.stop_eq_none {runs : List (TestCase × Mode)} {s s' : σ} {report : Report} {stop : Option Fault}
    {calls : List CallRecord} (h : Session engine env runs s report stop calls s')
    (hreadable : OnlyRaises engine IsReadable) : stop = none := by
  induction h with
  | done => rfl
  | skipped _ _ ih => exact ih
  | run _ _ _ ih => exact ih
  | stopped _ first =>
    obtain ⟨verdict, hverdict⟩ := first.exists_verdict hreadable
    cases hverdict

lemma Session.cases_append {runs others : List (TestCase × Mode)} {s s' : σ} {report : Report} {stop : Option Fault}
    {calls : List CallRecord} (h : Session engine env (runs ++ others) s report stop calls s') :
    (∃ raised, stop = some raised ∧ Session engine env runs s report stop calls s') ∨
      ∃ report₁ report₂ calls₁ calls₂ between, Session engine env runs s report₁ none calls₁ between ∧
        Session engine env others between report₂ stop calls₂ s' ∧ report = report₁ ++ report₂ := by
  induction runs generalizing s report calls with
  | nil => exact .inr ⟨_, _, _, _, _, .done, h, rfl⟩
  | cons run runs ih =>
    cases h with
    | skipped applies rest =>
      rcases ih rest with ⟨raised, hstop, h⟩ | ⟨_, _, _, _, _, h₁, h₂, rfl⟩
      · exact .inl ⟨raised, hstop, .skipped applies h⟩
      · exact .inr ⟨_, _, _, _, _, .skipped applies h₁, h₂, rfl⟩
    | run applies first rest =>
      rcases ih rest with ⟨raised, hstop, h⟩ | ⟨_, _, _, _, _, h₁, h₂, rfl⟩
      · exact .inl ⟨raised, hstop, .run applies first h⟩
      · exact .inr ⟨_, _, _, _, _, .run applies first h₁, h₂, rfl⟩
    | stopped applies first => exact .inl ⟨_, rfl, .stopped applies first⟩

lemma map_outcomeOf (front report : Report) (stop : Option Fault) :
    (outcomeOf report stop).map (front ++ ·) = outcomeOf (front ++ report) stop := by
  cases stop <;> rfl

lemma runInModes_of_session {test : TestCase} (applies : test.applies env = true) {modes : List Mode} {s s' : σ}
    {report : Report} {stop : Option Fault} {calls : List CallRecord}
    (h : Session engine env (modes.map (test, ·)) s report stop calls s') :
    (engine.runInModes test modes s).value = outcomeOf report stop ∧ (engine.runInModes test modes s).state = s' := by
  induction modes generalizing s report calls with
  | nil =>
    cases h
    exact ⟨rfl, rfl⟩
  | cons mode modes ih =>
    cases h with
    | skipped skips => exact absurd (applies.symm.trans skips) (by decide)
    | run _ first rest =>
      obtain ⟨hvalue, hstate⟩ := runInMode_of_runsTo first
      obtain ⟨hvalues, hstates⟩ := ih rest
      rw [Engine.runInModes, Logged.andThen, hvalue, hstate]
      exact ⟨(congrArg _ hvalues).trans (map_outcomeOf [_] _ stop), hstates⟩
    | stopped _ first =>
      obtain ⟨hvalue, hstate⟩ := runInMode_of_runsTo first
      rw [Engine.runInModes, Logged.andThen, hvalue, hstate]
      exact ⟨rfl, rfl⟩

lemma skipped_of_session {test : TestCase} (applies : test.applies env = false) {modes : List Mode} {s s' : σ}
    {report : Report} {stop : Option Fault} {calls : List CallRecord}
    (h : Session engine env (modes.map (test, ·)) s report stop calls s') :
    report = modes.map (fun mode => ⟨test.fullName, mode, .skipped⟩) ∧ stop = none ∧ s' = s := by
  induction modes generalizing report calls with
  | nil =>
    cases h
    exact ⟨rfl, rfl, rfl⟩
  | cons mode modes ih =>
    cases h with
    | skipped _ rest =>
      obtain ⟨rfl, rfl, rfl⟩ := ih rest
      exact ⟨rfl, rfl, rfl⟩
    | run goes => exact absurd (applies.symm.trans goes) (by decide)
    | stopped goes => exact absurd (applies.symm.trans goes) (by decide)

lemma runTest_of_session {test : TestCase} {s s' : σ} {report : Report} {stop : Option Fault} {calls : List CallRecord}
    (h : Session engine env (test.modes.map (test, ·)) s report stop calls s') :
    (engine.runTest env test s).value = outcomeOf report stop ∧ (engine.runTest env test s).state = s' := by
  rw [Engine.runTest]
  cases applies : test.applies env with
  | true => exact runInModes_of_session applies h
  | false =>
    obtain ⟨rfl, rfl, rfl⟩ := skipped_of_session applies h
    exact ⟨rfl, rfl⟩

lemma runTests_of_session {tests : List TestCase} {s s' : σ} {report : Report} {stop : Option Fault}
    {calls : List CallRecord}
    (h : Session engine env (tests.flatMap fun test => test.modes.map (test, ·)) s report stop calls s') :
    (engine.runTests env tests s).value = outcomeOf report stop ∧ (engine.runTests env tests s).state = s' := by
  induction tests generalizing s report calls with
  | nil =>
    cases h
    exact ⟨rfl, rfl⟩
  | cons test tests ih =>
    rcases Session.cases_append h with ⟨raised, rfl, hstopped⟩ | ⟨_, _, _, _, between, hfirst, hothers, rfl⟩
    · obtain ⟨hvalue, hstate⟩ := runTest_of_session hstopped
      rw [Engine.runTests, Logged.andThen, hvalue, hstate]
      exact ⟨rfl, rfl⟩
    · obtain ⟨hvalue, hstate⟩ := runTest_of_session hfirst
      obtain ⟨hvalues, hstates⟩ := ih hothers
      rw [Engine.runTests, Logged.andThen, hvalue, hstate]
      exact ⟨(congrArg _ hvalues).trans (map_outcomeOf _ _ stop), hstates⟩

lemma isSelected_eq (only : Option Text) (test : TestCase) :
    test.isSelected only = decide (only = none ∨ only = some test.name ∨ only = some test.fullName) := by
  cases only with
  | none => rfl
  | some name => simp [TestCase.isSelected, Bool.beq_eq_decide_eq]

lemma runSuites_of_session {only : Option Text} {suites : List Suite} {s s' : σ} {report : Report}
    {stop : Option Fault} {calls : List CallRecord}
    (h : Session engine env (sessionRuns only suites) s report stop calls s') :
    (engine.runSuites env only suites s).value = outcomeOf report stop ∧
      (engine.runSuites env only suites s).state = s' := by
  have htests : selectedTests only suites = (suites.flatMap (·.tests)).filter fun test =>
      only = none ∨ only = some test.name ∨ only = some test.fullName := by
    rw [selectedTests]
    congr 1
    funext test
    exact isSelected_eq only test
  rw [Engine.runSuites, htests]
  exact runTests_of_session h

end Sessions

end SuiteRunner.Proofs
