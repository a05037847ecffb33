import Mathlib.Data.List.Forall2
import SuiteRunner.Proofs.FreshEngines

/-!
# The account of a session

A session reports one result for each of its runs. On an engine that starts afresh the result of a run is the same in
every session, so a filter leaves results out and changes none.
-/

namespace SuiteRunner.Proofs

/-- The runs of all tests, in the order of the suites. A test with a star in front of its name is run in normal mode
alone. -/
def allRuns (suites : List Suite) : List (TestCase × Mode) :=
  suites.flatMap fun suite => suite.tests.flatMap fun test =>
    if ['*'] <+: test.name then [(test, .normal)] else [(test, .normal), (test, .run)]

/-- The test goes by the name, be it with its suite or without. -/
def IsNamed (name : Text) (test : TestCase) : Prop :=
  test.name = name ∨ test.fullName = name

instance (name : Text) (test : TestCase) : Decidable (IsNamed name test) :=
  inferInstanceAs (Decidable (_ ∨ _))

/-- The result carries the name and the mode of the run, and tells that it was skipped if the test does not apply. -/
structure Accounts (env : Environment) (run : TestCase × Mode) (result : RunResult) : Prop where
  test : result.test = run.1.fullName
  mode : result.mode = run.2
  skipped : result.verdict = .skipped ↔ run.1.applies env = false

lemma modes_eq (test : TestCase) :
    test.modes.map (test, ·) =
      if ['*'] <+: test.name then [(test, .normal)] else [(test, .normal), (test, .run)] := by
  have hstar : test.runsOnce = true ↔ ['*'] <+: test.name := by
    rw [TestCase.runsOnce, beq_iff_eq, List.singleton_prefix_iff_head?_eq_some]
  rw [TestCase.modes]
  by_cases h : ['*'] <+: test.name
  · rw [if_pos (hstar.mpr h), if_pos h]
    rfl
  · rw [if_neg (mt hstar.mp h), if_neg h]
    rfl

lemma selects_iff (only : Option Text) (test : TestCase) :
    (only = none ∨ only = some test.name ∨ only = some test.fullName) ↔ ∀ name ∈ only, IsNamed name test := by
  cases only with
  | none => simp
  | some name => simp [IsNamed, eq_comm]

lemma modes_filter (selects : TestCase → Bool) (test : TestCase) :
    ((test.modes.map (test, ·)).filter fun run => selects run.1) =
      if selects test then test.modes.map (test, ·) else [] := by
  split
  case isTrue h => exact List.filter_eq_self.mpr (List.forall_mem_map.mpr fun _ _ => h)
  case isFalse h => exact List.filter_eq_nil_iff.mpr (List.forall_mem_map.mpr fun _ _ => h)

lemma runs_filter (selects : TestCase → Bool) (tests : List TestCase) :
    ((tests.filter selects).flatMap fun test => test.modes.map (test, ·)) =
      (tests.flatMap fun test => test.modes.map (test, ·)).filter fun run => selects run.1 := by
  induction tests with
  | nil => rfl
  | cons test tests ih =>
    rw [List.flatMap_cons, List.filter_append, modes_filter, ← ih, List.filter_cons]
    split <;> rfl

lemma sessionRuns_eq (only : Option Text) (suites : List Suite) :
    sessionRuns only suites = (allRuns suites).filter fun run => ∀ name ∈ only, IsNamed name run.1 := by
  rw [sessionRuns, runs_filter, List.flatMap_assoc]
  simp only [selects_iff, modes_eq, allRuns]

lemma counts_add (report : Report) :
    report.passedCount + report.failedCount + report.skippedCount = report.length := by
  induction report with
  | nil => rfl
  | cons result rest ih =>
    rw [Report.passedCount, Report.failedCount, Report.skippedCount] at ih ⊢
    rw [List.countP_cons, List.countP_cons, List.countP_cons, List.length_cons, ← ih]
    cases result.verdict <;> simp [Verdict.isPassed, Verdict.isFailed, Verdict.isSkipped, Verdict.failure?] <;> omega

lemma failedCount_eq_zero_iff (report : Report) : report.failedCount = 0 ↔ report.failures = [] := by
  rw [Report.failedCount, Report.failures, List.countP_eq_length_filter, List.length_eq_zero_iff]

lemma ok_iff (report : Report) : report.ok = true ↔ report.failures = [] :=
  List.isEmpty_iff

section Reports

variable {σ : Type} (engine : Engine σ) (env : Environment)

/-- What the run is reported as if it starts from the state. -/
def resultFrom (s : σ) (run : TestCase × Mode) : Except Fault RunResult :=
  if run.1.applies env then (engine.runInMode run.1 run.2 s).value else .ok ⟨run.1.fullName, run.2, .skipped⟩

lemma accounts_resultFrom {s : σ} {run : TestCase × Mode} {result : RunResult}
    (h : resultFrom engine env s run = .ok result) : Accounts env run result := by
  rw [resultFrom] at h
  cases happlies : run.1.applies env with
  | false =>
    rw [happlies] at h
    obtain rfl := Except.ok.inj h
    exact ⟨rfl, rfl, iff_of_true rfl happlies⟩
  | true =>
    rw [happlies, if_pos rfl, runInMode_value] at h
    cases hattempt : (engine.attempt run.1 run.2 s).value with
    | error raised =>
      rw [hattempt] at h
      cases h
    | ok failure =>
      rw [hattempt] at h
      obtain rfl := Except.ok.inj h
      refine ⟨rfl, rfl, iff_of_false ?_ (by simp [happlies])⟩
      cases failure <;> exact Verdict.noConfusion

variable {engine env}

/-- The runs are reported as these results, whatever state each starts from. -/
def AreReported (engine : Engine σ) (env : Environment) (runs : List (TestCase × Mode)) (report : Report) : Prop :=
  List.Forall₂ (fun run result => ∀ s, resultFrom engine env s run = .ok result) runs report

/-- No run of a session on an engine that starts afresh shows what was run before it. -/
theorem Session.areReported (hfresh : StartsAfresh engine) {runs : List (TestCase × Mode)} {s s' : σ} {report : Report}
    {calls : List CallRecord} (h : Session engine env runs s report none calls s') :
    AreReported engine env runs report := by
  generalize hstop : (none : Option Fault) = stop at h
  induction h with
  | done => exact .nil
  | skipped applies _ ih =>
    refine .cons (fun t => ?_) (ih hstop)
    rw [resultFrom, if_neg (by simp [applies])]
  | @run test mode _ s _ _ _ _ _ _ _ applies first _ ih =>
    refine .cons (fun t => ?_) (ih hstop)
    rw [resultFrom, if_pos applies, hfresh.runInMode test mode t s]
    exact (runInMode_of_runsTo first).1
  | stopped => cases hstop

lemma Session.exists_error (hfresh : StartsAfresh engine) {runs : List (TestCase × Mode)} {s s' : σ} {report : Report}
    {raised : Fault} {calls : List CallRecord} (h : Session engine env runs s report (some raised) calls s') (t : σ) :
    ∃ run ∈ runs, resultFrom engine env t run = .error raised := by
  generalize hstop : some raised = stop at h
  induction h with
  | done => cases hstop
  | skipped _ _ ih =>
    obtain ⟨run, hrun, herror⟩ := ih hstop
    exact ⟨run, List.mem_cons_of_mem _ hrun, herror⟩
  | run _ _ _ ih =>
    obtain ⟨run, hrun, herror⟩ := ih hstop
    exact ⟨run, List.mem_cons_of_mem _ hrun, herror⟩
  | @stopped test mode _ s _ _ _ applies first =>
    obtain rfl := Option.some.inj hstop
    refine ⟨(test, mode), List.mem_cons_self, ?_⟩
    rw [resultFrom, if_pos applies, hfresh.runInMode test mode t s]
    exact (runInMode_of_runsTo first).1

lemma AreReported.unique {runs : List (TestCase × Mode)} {report report' : Report}
    (h : AreReported engine env runs report) (h' : AreReported engine env runs report') (s : σ) : report = report' := by
  induction h generalizing report' with
  | nil =>
    cases h'
    rfl
  | cons hresult _ ih =>
    cases h' with
    | cons hresult' hreport' =>
      rw [ih hreport', Except.ok.inj ((hresult s).symm.trans (hresult' s))]

lemma AreReported.not_error {runs : List (TestCase × Mode)} {report : Report} (h : AreReported engine env runs report)
    {run : TestCase × Mode} (hrun : run ∈ runs) (s : σ) (raised : Fault) :
    resultFrom engine env s run ≠ .error raised := by
  induction h with
  | nil => exact absurd hrun List.not_mem_nil
  | cons hresult _ ih =>
    rcases List.mem_cons.mp hrun with rfl | hrun
    · rw [hresult s]
      exact nofun
    · exact ih hrun

/-- A session on an engine that starts afresh reports its runs one by one. -/
theorem Session.outcome_eq_ok_iff (hfresh : StartsAfresh engine) {runs : List (TestCase × Mode)} {s s' : σ}
    {made report : Report} {stop : Option Fault} {calls : List CallRecord}
    (h : Session engine env runs s made stop calls s') :
    outcomeOf made stop = .ok report ↔ AreReported engine env runs report := by
  cases stop with
  | none =>
    have hmade := h.areReported hfresh
    refine ⟨fun hreport => Except.ok.inj hreport ▸ hmade, fun hreport => ?_⟩
    exact congrArg Except.ok (hmade.unique hreport s)
  | some raised =>
    obtain ⟨run, hrun, herror⟩ := h.exists_error hfresh s
    exact ⟨nofun, fun hreport => absurd herror (hreport.not_error hrun s raised)⟩

lemma runSuites_eq_ok_iff (hfresh : StartsAfresh engine) {only : Option Text} {suites : List Suite} {s : σ}
    {report : Report} :
    (engine.runSuites env only suites s).value = .ok report ↔
      AreReported engine env (sessionRuns only suites) report := by
  obtain ⟨made, stop, calls, s', h⟩ := exists_session engine env (sessionRuns only suites) s
  rw [(runSuites_of_session h).1]
  exact h.outcome_eq_ok_iff hfresh

lemma AreReported.accounted {runs : List (TestCase × Mode)} {report : Report} (h : AreReported engine env runs report)
    (s : σ) : List.Forall₂ (Accounts env) runs report :=
  h.imp fun _ _ hresult => accounts_resultFrom engine env (hresult s)

lemma AreReported.filter {runs : List (TestCase × Mode)} {report : Report} (h : AreReported engine env runs report)
    (p : TestCase × Mode → Bool) :
    AreReported engine env (runs.filter p) (((runs.zip report).filter fun entry => p entry.1).map Prod.snd) := by
  induction h with
  | nil => exact .nil
  | @cons run result runs report hresult _ ih =>
    rw [List.zip_cons_cons, List.filter_cons, List.filter_cons]
    split
    · exact .cons hresult ih
    · exact ih

/-- On an engine that starts afresh the report of a session has one result for each run of the tests that go by the
name, in order, and no result but that of a test that does not apply is skipped. The counts add up, and the session is
in order if none failed. If the session of all tests comes to a report, in whatever state it is, the results are those
that these runs have in it. There is a report where all faults can be read. -/
theorem runSuites_account (hfresh : StartsAfresh engine) (env : Environment) (only : Option Text) (suites : List Suite)
    (s : σ) :
    (∀ report, (engine.runSuites env only suites s).value = .ok report →
      List.Forall₂ (Accounts env) ((allRuns suites).filter fun run => ∀ name ∈ only, IsNamed name run.1) report ∧
        report.passedCount + report.failedCount + report.skippedCount = report.length ∧
        (report.ok = true ↔ report.failedCount = 0) ∧ (report.failedCount = 0 ↔ report.failures = [])) ∧
      (∀ t all, (engine.runSuites env none suites t).value = .ok all →
        (engine.runSuites env only suites s).value = .ok ((((allRuns suites).zip all).filter
          fun entry => ∀ name ∈ only, IsNamed name entry.1.1).map Prod.snd)) ∧
      (OnlyRaises engine IsReadable → ∃ report, (engine.runSuites env only suites s).value = .ok report) := by
  refine ⟨fun report hreport => ⟨?_, counts_add report, ?_, failedCount_eq_zero_iff report⟩, fun t all hall => ?_,
    fun hreadable => ?_⟩
  · rw [← sessionRuns_eq]
    exact ((runSuites_eq_ok_iff hfresh).mp hreport).accounted s
  · rw [ok_iff, failedCount_eq_zero_iff]
  · have hreported := (runSuites_eq_ok_iff hfresh).mp hall
    rw [sessionRuns_eq, List.filter_eq_self.mpr (by simp)] at hreported
    rw [runSuites_eq_ok_iff hfresh, sessionRuns_eq]
    exact hreported.filter _
  · obtain ⟨report, stop, calls, s', h⟩ := exists_session engine env (sessionRuns only suites) s
    obtain rfl := h.stop_eq_none hreadable
    exact ⟨report, (runSuites_of_session h).1⟩

/-- Two tests of one name, one of which fails, and one that does not apply. -/
theorem runSuites_account_same_name :
    let engine := (Engine.scripted fun _ => {}).recorded
    let env : Environment := ⟨false, true⟩
    let first := TestCase.ofStatements "s".toList "Sum".toList [.expression "1".toList (.result "2".toList)]
    let second := TestCase.ofStatements "t".toList "Sum".toList [.command .observer "cd".toList .success]
    let others := [TestCase.ofStatements "t".toList "*Once".toList [], TestCase.ofStatements "t".toList "Torus_3D".toList []]
    let suites : List Suite := [⟨"s".toList, [first], []⟩, ⟨"t".toList, second :: others, []⟩]
    let report := (engine.runSuites env none suites (.normal, [])).value.toOption.getD []
    StartsAfresh engine ∧ OnlyRaises engine IsReadable ∧
      (∃ all, (engine.runSuites env none suites (.normal, [])).value = .ok all) ∧
      (report.passedCount, report.failedCount, report.skippedCount) = (3, 2, 2) ∧
      (report.take 4).map (·.test) = ["s::Sum".toList, "s::Sum".toList, "t::Sum".toList, "t::Sum".toList] ∧
      (engine.runSuites env (some "Sum".toList) suites (.normal, [])).value = .ok (report.take 4) := by
  intro engine env first second others suites report
  have hfresh : StartsAfresh engine := (startsAfresh_scripted _).recorded
  have hreadable : OnlyRaises engine IsReadable := (onlyRaises_silent _).recorded
  have hall := (runSuites_account hfresh env none suites (.normal, [])).2.2 hreadable
  have hreport : (engine.runSuites env none suites (.normal, [])).value = .ok report := by rfl
  have hnamed := (runSuites_account hfresh env (some "Sum".toList) suites (.normal, [])).2.1 (.normal, []) report hreport
  refine ⟨hfresh, hreadable, hall, by rfl, by rfl, hnamed.trans (congrArg Except.ok ?_)⟩
  decide

end Reports

end SuiteRunner.Proofs
