import SuiteRunner.Proofs.Lifecycle
import SuiteRunner.Proofs.TextSeams
import SuiteRunner.World.Engine

/-!
# The sources that a run compiles

A run compiles the definitions of its test first. Each definition that comes up among the statements is compiled
together with all sources before it, and in a world this comes to the same as compiling all of them at once.
-/

namespace SuiteRunner.Proofs
open World

/-- The source that a call compiles. -/
def compiledSource? : CallRecord → Option Text
  | .compile source => some source
  | _ => none

/-- The calls of statements that come up one after the other, where these sources were compiled before. -/
def callsOf : List Text → List Statement → List CallRecord
  | _, [] => []
  | sources, statement :: rest => callOf sources statement :: callsOf (sources ++ definitionSources [statement]) rest

/-- The sources up to each of them, joined by line feeds behind those that were there before. -/
def joinedSources (before sources : List Text) : List Text :=
  (List.range sources.length).map fun j => Text.unlines (before ++ sources.take (j + 1))

/-- A run with this verdict and these calls gets to the statements: they are the first of the elements, and each makes
its call between the start and the disposal. All elements are among them if the run passes, and they end with the
statement at which it fails. -/
structure GetsTo (test : TestCase) (mode : Mode) (verdict : Except Fault Verdict) (calls : List CallRecord)
    (statements : List Statement) : Prop where
  first : statements.map some <+: test.executable
  calls : calls = lifecycle test mode (callsOf (firstSources test) statements)
  passed : verdict = .ok .passed → statements.map some = test.executable
  failed : ∀ failure, verdict = .ok (.failed failure) → failure.index ≠ 0 → failure.index = statements.length

section Calls

lemma joinedSources_cons (before : List Text) (source : Text) (sources : List Text) :
    joinedSources before (source :: sources) =
      Text.unlines (before ++ [source]) :: joinedSources (before ++ [source]) sources := by
  simp [joinedSources, List.range_succ_eq_map]

lemma definitionSources_cons (statement : Statement) (statements : List Statement) :
    definitionSources (statement :: statements) = definitionSources [statement] ++ definitionSources statements :=
  List.filterMap_append (l := [statement])

lemma compiledSources_callsOf (before : List Text) (statements : List Statement) :
    (callsOf before statements).filterMap compiledSource? = joinedSources before (definitionSources statements) := by
  induction statements generalizing before with
  | nil => rfl
  | cons statement statements ih =>
    rw [callsOf, definitionSources_cons, List.filterMap_cons, ih]
    cases statement with
    | definition source => exact (joinedSources_cons before source _).symm
    | openModel path => simp [callOf, compiledSource?, definitionSources]
    | expression text expected => simp [callOf, compiledSource?, definitionSources]
    | command agent text expected => cases expected <;> simp [callOf, compiledSource?, definitionSources]

lemma compiledSources_lifecycle (test : TestCase) (mode : Mode) (calls : List CallRecord) :
    (lifecycle test mode calls).filterMap compiledSource? = test.definitions :: calls.filterMap compiledSource? := by
  change test.definitions :: List.filterMap compiledSource? (calls ++ [.dispose]) = _
  rw [List.filterMap_append]
  exact congrArg _ (List.append_nil _)

end Calls

section Runs

variable {σ : Type} {engine : Engine σ} {test : TestCase} {mode : Mode}

lemma calls_of_exchanges {sources : List Text} {elements : List Element} {s : σ} {made after : List (Exchange σ)}
    (h : exchanges engine sources elements s = made ++ after) :
    made.map (·.call) = callsOf sources (made.map (·.statement)) := by
  induction made generalizing sources elements s with
  | nil => rfl
  | cons e made ih =>
    obtain ⟨statement, rest, rfl, rfl, hrest⟩ := exchanges_eq_cons engine h
    have hcalls := ih hrest
    rw [addSource_eq] at hcalls
    exact congrArg (_ :: ·) hcalls

lemma performAll_of_ok {fullName : Text} {number : Nat} {sources : List Text} {statement : Statement}
    {rest : List Element} {s s' : σ} (h : engine.perform sources statement s = (.ok (), s')) :
    (engine.performAll fullName number sources (some statement :: rest) s).value =
        (engine.performAll fullName (number + 1) (statement.addSource sources) rest s').value ∧
      (engine.performAll fullName number sources (some statement :: rest) s).state =
        (engine.performAll fullName (number + 1) (statement.addSource sources) rest s').state := by
  rw [Engine.performAll, h]
  exact ⟨rfl, rfl⟩

lemma performAll_of_error {fullName : Text} {number : Nat} {sources : List Text} {statement : Statement}
    {rest : List Element} {s : σ} {fault : Fault} (h : (engine.perform sources statement s).1 = .error fault) :
    (engine.performAll fullName number sources (some statement :: rest) s).value =
      .told number statement.source (FailureCause.ofFault fault) := by
  rw [Engine.performAll]
  rcases hperform : engine.perform sources statement s with ⟨judgement, s'⟩
  obtain rfl : judgement = .error fault := by rwa [hperform] at h
  rfl

lemma told_ne_completed (index : Nat) (source : Text) (cause : Except Fault FailureCause) :
    Ending.told index source cause ≠ .completed := by
  cases cause <;> exact nofun

lemma ComesOff.getsTo {s s' : σ} {ending : Ending} {calls : List CallRecord} (h : ComesOff engine test s ending calls s') :
    ∃ statements, statements.map some <+: test.executable ∧ calls = callsOf (firstSources test) statements ∧
      (ending = .completed → statements.map some = test.executable) ∧
      ∀ failure, ending = .failed failure → failure.index ≠ 0 → failure.index = statements.length := by
  cases h with
  | notCompiled compile =>
    refine ⟨[], List.nil_prefix, rfl, fun hending => absurd hending (told_ne_completed _ _ _), ?_⟩
    intro failure hending hindex
    obtain ⟨known, -, rfl⟩ := told_eq_failed hending
    exact absurd rfl hindex
  | @misbehaved ready before after e fault compile split behave misbehaves =>
    rw [List.append_cons] at split
    refine ⟨(before ++ [e]).map (·.statement), elements_of_exchanges engine split, calls_of_exchanges split,
      fun hending => absurd hending (told_ne_completed _ _ _), fun failure hending _ => ?_⟩
    obtain ⟨known, -, rfl⟩ := told_eq_failed hending
    rw [List.length_map, List.length_append, List.length_singleton]
  | foreign completes object =>
    obtain ⟨ready, -, rfl, -, -⟩ := completes
    have hall := (List.append_nil (exchanges engine (firstSources test) test.executable ready)).symm
    exact ⟨_, elements_of_exchanges engine hall, calls_of_exchanges hall, nofun, nofun⟩
  | completed completes statements =>
    obtain ⟨ready, -, rfl, -, -⟩ := completes
    have hall := (List.append_nil (exchanges engine (firstSources test) test.executable ready)).symm
    exact ⟨_, elements_of_exchanges engine hall, calls_of_exchanges hall,
      fun _ => elements_of_all_exchanges engine _ _ statements, nofun⟩

/-- A run on an engine that starts gets to the statements that make their calls. -/
theorem RunsTo.getsTo {s s' : σ} {verdict : Except Fault Verdict} {calls : List CallRecord}
    (h : RunsTo engine test mode s verdict calls s') (hstart : (engine.start mode test.fullName s).1 = .ok ()) :
    ∃ statements, GetsTo test mode verdict calls statements := by
  have hpassed (fault : Fault) : setupVerdict fault ≠ .ok .passed := by
    intro hverdict
    obtain ⟨text, -, htext⟩ := setupVerdict_eq_ok hverdict
    cases htext
  have hfailed (fault : Fault) (failure : Failure) (hverdict : setupVerdict fault = .ok (.failed failure))
      (hindex : failure.index ≠ 0) (n : Nat) : failure.index = n := by
    obtain ⟨text, -, htext⟩ := setupVerdict_eq_ok hverdict
    cases htext
    exact absurd rfl hindex
  cases h with
  | notStarted start =>
    rw [start] at hstart
    cases hstart
  | failed start performs =>
    obtain ⟨statements, hfirst, rfl, -, hnumber⟩ := performs.getsTo
    refine ⟨statements, hfirst, rfl, nofun, ?_⟩
    rintro failure ⟨rfl⟩
    exact hnumber _ rfl
  | untold start performs =>
    obtain ⟨statements, hfirst, rfl, -, -⟩ := performs.getsTo
    exact ⟨statements, hfirst, rfl, nofun, nofun⟩
  | notDisposed start performs =>
    obtain ⟨statements, hfirst, rfl, -, -⟩ := performs.getsTo
    exact ⟨statements, hfirst, rfl, fun hverdict => absurd hverdict (hpassed _),
      fun failure hverdict hindex => hfailed _ failure hverdict hindex _⟩
  | raised start performs =>
    obtain ⟨statements, hfirst, rfl, -, -⟩ := performs.getsTo
    exact ⟨statements, hfirst, rfl, fun hverdict => absurd hverdict (hpassed _),
      fun failure hverdict hindex => hfailed _ failure hverdict hindex _⟩
  | passed start performs =>
    obtain ⟨statements, hfirst, rfl, hall, -⟩ := performs.getsTo
    exact ⟨statements, hfirst, rfl, fun _ => hall rfl, nofun⟩

lemma runInMode_recorded_sources {s : σ} (hstart : (engine.start mode test.fullName s).1 = .ok ()) :
    let run := engine.recorded.runInMode test mode (s, [])
    ∃ statements, GetsTo test mode (run.value.map (·.verdict)) run.state.2 statements ∧
      run.state.2.filterMap compiledSource? =
        test.definitions :: joinedSources (firstSources test) (definitionSources statements) := by
  obtain ⟨verdict, calls, s', h⟩ := exists_runsTo engine test mode s
  obtain ⟨hvalue, hstate⟩ := runInMode_of_runsTo (h.recorded [])
  obtain ⟨statements, hgets⟩ := h.getsTo hstart
  have hverdict : (verdict.map fun v => (⟨test.fullName, mode, v⟩ : RunResult)).map (·.verdict) = verdict := by
    cases verdict <;> rfl
  refine ⟨statements, ?_, ?_⟩
  · rwa [hvalue, hstate, hverdict]
  · rw [hstate, List.nil_append, hgets.calls, compiledSources_lifecycle, compiledSources_callsOf]

end Runs

section Worlds

lemma lines_unlines_flatMap {sources : List Text} (h : sources ≠ []) :
    (Text.unlines sources).lines = sources.flatMap Text.lines := by
  induction sources with
  | nil => exact absurd rfl h
  | cons source sources ih =>
    cases sources with
    | nil => simp [Text.unlines]
    | cons next sources =>
      rw [unlines_cons_cons, lines_append_newline, ih (List.cons_ne_nil _ _), ← List.flatMap_cons]

lemma ofSource_unlines (sources : List Text) :
    Definitions.ofSource (Text.unlines sources) = (sources.flatMap Text.lines).foldlM Definitions.addLine {} := by
  by_cases h : sources = []
  · subst h
    rfl
  · rw [Definitions.ofSource, lines_unlines_flatMap h]

lemma compile_of_append {sources more : List Text} {w : World}
    (h : (compile (Text.unlines (sources ++ more)) w).1 = .ok ()) : (compile (Text.unlines sources) w).1 = .ok () := by
  rw [compile] at h ⊢
  rw [ofSource_unlines, List.flatMap_append, List.foldlM_append, ← ofSource_unlines] at h
  cases hsource : Definitions.ofSource (Text.unlines sources) with
  | ok ds => rfl
  | error fault =>
    rw [hsource] at h
    cases h

lemma compile_after_compile (source before : Text) (w : World) :
    (compile source (compile before w).2).1 = (compile source w).1 ∧
      ((compile source w).1 = .ok () → (compile source (compile before w).2).2 = (compile source w).2) := by
  unfold compile
  cases Definitions.ofSource source with
  | error fault => exact ⟨rfl, nofun⟩
  | ok ds => cases Definitions.ofSource before <;> exact ⟨rfl, fun _ => rfl⟩

/-- Statements that define these sources. -/
def definitionElements (sources : List Text) : List Element :=
  sources.map fun source => some (.definition source)

lemma performAll_definitions (fullName : Text) (number : Nat) (before sources : List Text) {w : World}
    (hbefore : compile (Text.unlines before) {} = (.ok (), w)) :
    let run := Engine.world.performAll fullName number before (definitionElements sources) w
    let batch := compile (Text.unlines (before ++ sources)) {}
    (run.value = .completed ↔ batch.1 = .ok ()) ∧ (batch.1 = .ok () → run.state = batch.2) := by
  induction sources generalizing number before w with
  | nil =>
    rw [List.append_nil, hbefore]
    exact ⟨iff_of_true rfl rfl, fun _ => rfl⟩
  | cons source sources ih =>
    have hafter : (compile (Text.unlines (before ++ [source])) w).1 =
          (compile (Text.unlines (before ++ [source])) {}).1 ∧
        ((compile (Text.unlines (before ++ [source])) {}).1 = .ok () →
          (compile (Text.unlines (before ++ [source])) w).2 = (compile (Text.unlines (before ++ [source])) {}).2) := by
      have hcompile := compile_after_compile (Text.unlines (before ++ [source])) (Text.unlines before) {}
      rwa [hbefore] at hcompile
    have hsplit : compile (Text.unlines (before ++ source :: sources)) {} =
        compile (Text.unlines (before ++ [source] ++ sources)) {} := by rw [← List.append_cons]
    intro run batch
    rw [show batch = _ from hsplit]
    rcases hone : compile (Text.unlines (before ++ [source])) {} with ⟨fault | ⟨⟨⟩⟩, next⟩
    · -- the source is turned down here, and so is every text that it is part of
      rw [hone] at hafter
      have hbatch : (compile (Text.unlines (before ++ [source] ++ sources)) {}).1 ≠ .ok () := by
        intro hok
        have hsource := compile_of_append hok
        rw [hone] at hsource
        cases hsource
      have hperform : (Engine.world.perform before (.definition source) w).1 = .error fault :=
        congrArg judgeSuccess hafter.1
      have hfailed : run.value = .told number source (FailureCause.ofFault fault) := performAll_of_error hperform
      exact ⟨iff_of_false (by rw [hfailed]; exact told_ne_completed _ _ _) hbatch, fun hok => absurd hok hbatch⟩
    · rw [hone] at hafter
      have hperform : Engine.world.perform before (.definition source) w = (.ok (), next) :=
        Prod.ext (congrArg judgeSuccess hafter.1) (hafter.2 rfl)
      obtain ⟨hvalue, hstate⟩ : run.value = _ ∧ run.state = _ := performAll_of_ok hperform
      rw [hvalue, hstate]
      exact ih (number + 1) _ hone

lemma unlines_firstSources (test : TestCase) : Text.unlines (firstSources test) = test.definitions := by
  rw [firstSources]
  split
  case isTrue h => exact h.symm
  case isFalse => simp [Text.unlines]

lemma verdict_failureAfter_iff {test : TestCase} {mode : Mode} {ending : Ending} :
    (((Engine.failureAfter ending (.ok ())).map verdictOf).map (⟨test.fullName, mode, ·⟩)).map RunResult.verdict =
      .ok .passed ↔ ending = .completed := by
  cases ending with
  | completed => exact iff_of_true rfl rfl
  | failed failure => exact iff_of_false (by simp [Engine.failureAfter, verdictOf, Except.map]) (by simp)
  | raised fault =>
    refine iff_of_false ?_ (by simp)
    rw [Engine.failureAfter, map_outside, setupVerdict]
    cases fault.describe <;> simp [Except.map]

/-- In a world, a test that has only definitions to perform passes exactly if they compile together with those of the
test on a new world, and leaves what they define. -/
theorem runInMode_definitions (test : TestCase) (sources : List Text) (mode : Mode) (w : World) :
    let run := Engine.world.runInMode { test with executable := definitionElements sources } mode w
    let batch := compile (Text.unlines (firstSources test ++ sources)) {}
    (run.value.map (·.verdict) = .ok .passed ↔ batch.1 = .ok ()) ∧
      (batch.1 = .ok () → run.state = { batch.2 with disposed := true }) := by
  intro run batch
  let replaced : TestCase := { test with executable := definitionElements sources }
  have hstart : Engine.world.start mode replaced.fullName w = (.ok (), {}) := rfl
  have hattempt : (Engine.world.attempt replaced mode w).value =
        Engine.failureAfter (Engine.world.performTest replaced {}).value (.ok ()) ∧
      (Engine.world.attempt replaced mode w).state =
        { (Engine.world.performTest replaced {}).state with disposed := true } :=
    attempt_of_start hstart rfl rfl rfl
  have hverdict : run.value.map (·.verdict) = .ok .passed ↔
      (Engine.world.performTest replaced {}).value = .completed := by
    rw [show run.value = _ from runInMode_value Engine.world replaced mode w, hattempt.1, verdict_failureAfter_iff]
  have hstate : run.state = { (Engine.world.performTest replaced {}).state with disposed := true } :=
    (runInMode_state Engine.world replaced mode w).trans hattempt.2
  rw [hverdict, hstate]
  rcases hcompile : compile test.definitions {} with ⟨fault | ⟨⟨⟩⟩, ready⟩
  · have hbatch : batch.1 ≠ .ok () := by
      intro hok
      have hfirst := compile_of_append hok
      rw [unlines_firstSources, hcompile] at hfirst
      cases hfirst
    have hfailed : (Engine.world.performTest replaced {}).value = .told 0 definitionsSource _ :=
      (performTest_of_not_compile hcompile).1
    exact ⟨iff_of_false (by rw [hfailed]; exact told_ne_completed _ _ _) hbatch, fun hok => absurd hok hbatch⟩
  · have hready : compile (Text.unlines (firstSources test)) {} = (.ok (), ready) := by
      rw [unlines_firstSources, hcompile]
    obtain ⟨hvalue, hafter⟩ := performAll_definitions replaced.fullName 1 (firstSources test) sources hready
    have hperform : Engine.world.performTest replaced {} =
        Engine.world.performAll replaced.fullName 1 (firstSources test) (definitionElements sources) ready :=
      performTest_of_compile hcompile
    rw [hperform]
    exact ⟨hvalue, fun hok => congrArg (fun w : World => { w with disposed := true }) (hafter hok)⟩

end Worlds

lemma definitionSources_eq_nil {suite name : Text} {elements : List Element} {statements : List Statement}
    (h : statements.map some <+: (TestCase.ofElements suite name elements).executable) :
    definitionSources statements = [] := by
  rw [definitionSources, List.filterMap_eq_nil_iff]
  intro statement hmem
  have helement := h.subset (List.mem_map_of_mem hmem)
  have hnot := (List.mem_filter.mp helement).2
  cases statement with
  | definition source => simp [Statement.isDefinition] at hnot
  | _ => rfl

/-- A run on an engine that starts compiles the definitions of its test, and then for each definition that it gets to
among the statements all sources up to this one; a test as it is made has its definitions compiled and nothing else. In
a world, a test that has only definitions to perform passes exactly if all sources compile at once on a new world, and
leaves what they define. -/
theorem compiled_sources :
    (∀ (σ : Type) (engine : Engine σ) (test : TestCase) (mode : Mode) (s : σ),
      (engine.start mode test.fullName s).1 = .ok () →
        let run := engine.recorded.runInMode test mode (s, [])
        ∃ statements, GetsTo test mode (run.value.map (·.verdict)) run.state.2 statements ∧
          run.state.2.filterMap compiledSource? =
            test.definitions :: joinedSources (firstSources test) (definitionSources statements)) ∧
      (∀ (σ : Type) (engine : Engine σ) (suite name : Text) (elements : List Element) (mode : Mode) (s : σ),
        let test := TestCase.ofElements suite name elements
        (engine.start mode test.fullName s).1 = .ok () →
          (engine.recorded.runInMode test mode (s, [])).state.2.filterMap compiledSource? = [test.definitions]) ∧
      ∀ (test : TestCase) (sources : List Text) (mode : Mode) (w : World),
        let run := Engine.world.runInMode { test with executable := definitionElements sources } mode w
        let batch := compile (Text.unlines (firstSources test ++ sources)) {}
        (run.value.map (·.verdict) = .ok .passed ↔ batch.1 = .ok ()) ∧
          (batch.1 = .ok () → run.state = { batch.2 with disposed := true }) := by
  refine ⟨fun σ engine test mode s => runInMode_recorded_sources, ?_, runInMode_definitions⟩
  intro σ engine suite name elements mode s test hstart
  obtain ⟨statements, hgets, hsources⟩ := runInMode_recorded_sources hstart
  rw [hsources, definitionSources_eq_nil hgets.first]
  rfl

/-- A definition in front of the statements, and one among them. -/
theorem compiled_sources_among_statements :
    let engine := Engine.scripted fun _ => {}
    let made := TestCase.ofStatements "s".toList "T".toList [.definition "to a end".toList]
    let test : TestCase := { made with executable := [some (.definition "to b end".toList)] }
    let run := engine.recorded.runInMode test .run (.normal, [])
    (engine.start .run test.fullName .normal).1 = .ok () ∧
      (∃ statements, GetsTo test .run (run.value.map (·.verdict)) run.state.2 statements ∧
        run.state.2.filterMap compiledSource? =
          test.definitions :: joinedSources (firstSources test) (definitionSources statements)) ∧
      run.state.2.filterMap compiledSource? = ["to a end".toList, "to a end\nto b end".toList] := by
  intro engine made test run
  have hstart : (engine.start .run test.fullName .normal).1 = .ok () := rfl
  exact ⟨hstart, compiled_sources.1 Mode engine test .run .normal hstart, by rfl⟩

end SuiteRunner.Proofs
