import SuiteRunner.Proofs.Accounting
import SuiteRunner.Proofs.FoundFiles
import SuiteRunner.Run.Collect

/-!
# Tests inside another framework

A framework takes the tests of the same files one by one, and runs each in a state of its own. On an engine that starts
afresh it skips and judges each of them as a session over all files does.
-/

namespace SuiteRunner.Proofs
open TestFile

/-- The parameter of the test goes with its results in a session. It is marked where they are skipped, and it fails
where one of them does, with the texts of those that do. -/
structure Agrees {σ : Type} (engine : Engine σ) (env : Environment) (test : TestCase) (parameter : Parameter)
    (results : Report) : Prop where
  runs : results.map (fun result => (result.test, result.mode)) = test.modes.map (test.fullName, ·)
  skipped : ∀ result ∈ results, result.verdict = .skipped ↔ ∃ reason, parameter.skip = some reason
  fails : ∀ s, ∃ answer, engine.assertPasses env parameter.test s = .ok answer ∧
    ((∃ text, answer = some text) ↔ ∃ result ∈ results, ∃ failure, result.verdict = .failed failure) ∧
    ∀ text, answer = some text →
      text = List.intercalate "\n\n".toList ((results.filter (·.verdict.isFailed)).map RunResult.text)

section Files

variable {fs : FileSystem} {path : Path} {suite : Suite}

lemma find_of_load (h : load fs path = .ok suite) : ∃ octets, fs.find path = .ok (.file octets) := by
  cases hfind : fs.find path with
  | error fault => exact absurd ((load_of_error hfind).symm.trans h) (by simp)
  | ok tree =>
    cases tree with
    | file octets => exact ⟨octets, rfl⟩
    | dir entries => simp [load, FileSystem.readText, FileSystem.octets, hfind] at h

lemma isAdmitted_of_load (h : load fs path = .ok suite) : IsAdmitted fs path := by
  obtain ⟨octets, hfind⟩ := find_of_load h
  rw [isAdmitted_iff, FileSystem.pathFault?, hfind]

lemma loadPath_of_load (h : load fs path = .ok suite) : (loadPath fs path).suites = [suite] := by
  obtain ⟨octets, hfind⟩ := find_of_load h
  rw [loadPath, isDir_of_file hfind, h]
  rfl

lemma loadAll_of_loads {paths : List Path} {suites : List Suite}
    (h : List.Forall₂ (fun path suite => load fs path = .ok suite) paths suites) :
    ∃ loaded, loadAll fs [] paths = .ok loaded ∧ loaded.suites = suites := by
  have hsuites : (loadedFrom fs paths).suites = suites := by
    induction h with
    | nil => rfl
    | cons hload _ ih => exact congrArg₂ (· ++ ·) (loadPath_of_load hload) ih
  have hadmitted : ∀ path ∈ paths, IsAdmitted fs path := by
    intro path hpath
    obtain ⟨suite, hload⟩ := exists_forall₂_iff.mp ⟨suites, h⟩ path hpath
    exact isAdmitted_of_load hload
  exact ⟨_, loadAll_eq_ok_iff.mpr ⟨hadmitted, rfl⟩, hsuites⟩

lemma collect_of_loads (env : Environment) {paths : List Path} {suites : List Suite}
    (h : List.Forall₂ (fun path suite => load fs path = .ok suite) paths suites) :
    collect fs env paths = .ok ((suites.flatMap (·.tests)).map (TestCase.parameter env)) := by
  have hmap (f : Path → Except (Path × LoadError) Suite)
      (hf : ∀ path suite, load fs path = .ok suite → f path = .ok suite) : paths.mapM f = .ok suites :=
    mapM_eq_ok_iff.mpr (h.imp hf)
  rw [collect, hmap]
  · rfl
  · intro path suite hload
    rw [hload]

end Files

section Verdicts

variable {σ : Type} {engine : Engine σ} {env : Environment}

lemma runTest_eq_ok (hfresh : StartsAfresh engine) {test : TestCase} {results : Report}
    (h : AreReported engine env (test.modes.map (test, ·)) results) (s : σ) :
    (engine.runTest env test s).value = .ok results := by
  obtain ⟨made, stop, calls, s', hsession⟩ := exists_session engine env (test.modes.map (test, ·)) s
  rw [(runTest_of_session hsession).1]
  exact (hsession.outcome_eq_ok_iff hfresh).mpr h

lemma exists_of_forall₂_mem {α β : Type} {R : α → β → Prop} {as : List α} {bs : List β} (h : List.Forall₂ R as bs)
    {b : β} (hb : b ∈ bs) : ∃ a, R a b := by
  induction h with
  | nil => exact absurd hb List.not_mem_nil
  | @cons a _ _ _ hab _ ih =>
    rcases List.mem_cons.mp hb with rfl | hb
    · exact ⟨a, hab⟩
    · exact ih hb

lemma exists_of_forall₂_append {α β : Type} {R : α → β → Prop} {as as' : List α} {bs : List β}
    (h : List.Forall₂ R (as ++ as') bs) :
    ∃ bs₁ bs₂, bs = bs₁ ++ bs₂ ∧ List.Forall₂ R as bs₁ ∧ List.Forall₂ R as' bs₂ := by
  induction as generalizing bs with
  | nil => exact ⟨[], bs, rfl, .nil, h⟩
  | cons a as ih =>
    cases h with
    | cons hab hrest =>
      obtain ⟨bs₁, bs₂, rfl, h₁, h₂⟩ := ih hrest
      exact ⟨_, bs₂, rfl, .cons hab h₁, h₂⟩

lemma AreReported.exists_flatten {tests : List TestCase} {report : Report}
    (h : AreReported engine env (tests.flatMap fun test => test.modes.map (test, ·)) report) :
    ∃ reports, report = reports.flatten ∧
      List.Forall₂ (fun test results => AreReported engine env (test.modes.map (test, ·)) results) tests reports := by
  induction tests generalizing report with
  | nil =>
    cases h
    exact ⟨[], rfl, .nil⟩
  | cons test tests ih =>
    obtain ⟨results, others, rfl, hresults, hothers⟩ := exists_of_forall₂_append h
    obtain ⟨reports, rfl, hreports⟩ := ih hothers
    exact ⟨results :: reports, rfl, .cons hresults hreports⟩

lemma isFailed_iff {verdict : Verdict} : verdict.isFailed = true ↔ ∃ failure, verdict = .failed failure := by
  cases verdict <;> simp [Verdict.isFailed, Verdict.failure?]

lemma exists_failureText_iff (report : Report) :
    (∃ text, report.failureText = some text) ↔ ∃ result ∈ report, ∃ failure, result.verdict = .failed failure := by
  have hfailures : report.ok = false ↔ ∃ result ∈ report, ∃ failure, result.verdict = .failed failure := by
    rw [← Bool.not_eq_true, ok_iff, Report.failures, List.filter_eq_nil_iff]
    simp [isFailed_iff]
  rw [← hfailures, Report.failureText]
  cases report.ok <;> simp

lemma eq_of_failureText {report : Report} {text : Text} (h : report.failureText = some text) :
    text = List.intercalate "\n\n".toList ((report.filter (·.verdict.isFailed)).map RunResult.text) := by
  rw [Report.failureText] at h
  split at h
  · cases h
  · exact (Option.some.inj h).symm

lemma skip_iff (env : Environment) (test : TestCase) :
    (∃ reason, (test.parameter env).skip = some reason) ↔ test.applies env = false := by
  rw [TestCase.parameter]
  cases test.applies env <;> simp

lemma agrees_parameter (hfresh : StartsAfresh engine) {test : TestCase} {results : Report}
    (h : AreReported engine env (test.modes.map (test, ·)) results) (s : σ) :
    Agrees engine env test (test.parameter env) results := by
  have haccounts := List.forall₂_map_left_iff.mp (h.accounted s)
  refine ⟨?_, fun result hresult => ?_, fun t => ?_⟩
  · rw [← List.forall₂_eq_eq_eq, List.forall₂_map_left_iff, List.forall₂_map_right_iff]
    exact haccounts.flip.imp fun result mode h => Prod.ext h.test h.mode
  · rw [skip_iff]
    obtain ⟨mode, hmode⟩ := exists_of_forall₂_mem haccounts hresult
    exact hmode.skipped
  · refine ⟨results.failureText, ?_, exists_failureText_iff _, fun text htext => eq_of_failureText htext⟩
    rw [Engine.assertPasses, show (test.parameter env).test = test from rfl, runTest_eq_ok hfresh h t]
    rfl

/-- Files that all hold suites are collected and loaded alike: there is one parameter for each test of the suites that a
session gets, in the same order and under its full name. On an engine that starts afresh each goes with the results of
its test in the report, whatever state the session or the framework starts from. There is a report where all faults can
be read. -/
theorem collect_agrees (hfresh : StartsAfresh engine) {fs : FileSystem} (env : Environment) {paths : List Path}
    (hsuites : ∀ path ∈ paths, ∃ suite, load fs path = .ok suite) (s : σ) :
    ∃ loaded parameters, loadAll fs [] paths = .ok loaded ∧ collect fs env paths = .ok parameters ∧
      List.Forall₂ (fun test parameter => parameter.test = test ∧ parameter.id = test.fullName)
        (loaded.suites.flatMap (·.tests)) parameters ∧
      (∀ report, (engine.runSuites env none loaded.suites s).value = .ok report →
        ∃ reports : List Report, report = reports.flatten ∧
          List.Forall₂ (fun entry results => Agrees engine env entry.1 entry.2 results)
            ((loaded.suites.flatMap (·.tests)).zip parameters) reports) ∧
      (OnlyRaises engine IsReadable → ∃ report, (engine.runSuites env none loaded.suites s).value = .ok report) := by
  obtain ⟨suites, hloads⟩ := exists_forall₂_iff.mpr hsuites
  obtain ⟨loaded, hloaded, rfl⟩ := loadAll_of_loads hloads
  refine ⟨loaded, _, hloaded, collect_of_loads env hloads, ?_, fun report hreport => ?_, fun hreadable => ?_⟩
  · rw [List.forall₂_map_right_iff, List.forall₂_same]
    exact fun test _ => ⟨rfl, rfl⟩
  · have hreported := (runSuites_eq_ok_iff hfresh).mp hreport
    rw [sessionRuns, List.filter_eq_self.mpr (by simp)] at hreported
    obtain ⟨reports, rfl, hreports⟩ := hreported.exists_flatten
    refine ⟨reports, rfl, ?_⟩
    rw [← List.map_prod_left_eq_zip, List.forall₂_map_left_iff]
    exact hreports.imp fun test results hresults => agrees_parameter hfresh hresults s
  · exact (runSuites_account hfresh env none loaded.suites s).2.2 hreadable

/-- Of three tests in two files one fails, one is skipped and one is run once. -/
theorem collect_agrees_two_files :
    let sums := encoded "Sum\n  1 + 1 => 2\n".toList
    let others := encoded "Torus_3D\n  O> ca\n*Once\n  O> ca\n".toList
    let fs : FileSystem := ⟨.dir [("a.txt".toList, .file sums), ("b.txt".toList, .file others)], []⟩
    let paths : List Path := [⟨[], ["a.txt".toList]⟩, ⟨[], ["b.txt".toList]⟩]
    let engine := Engine.scripted fun _ => {}
    let env : Environment := ⟨false, true⟩
    StartsAfresh engine ∧ (∀ path ∈ paths, ∃ suite, load fs path = .ok suite) ∧
      (collect fs env paths).toOption.map (·.map fun parameter => (parameter.id, parameter.skip.isSome)) =
        some [("a::Sum".toList, false), ("b::Torus_3D".toList, true), ("b::*Once".toList, false)] ∧
      ∃ loaded parameters report, ∃ reports : List Report,
        loadAll fs [] paths = .ok loaded ∧ collect fs env paths = .ok parameters ∧
        (engine.runSuites env none loaded.suites .normal).value = .ok report ∧ report = reports.flatten ∧
        List.Forall₂ (fun entry results => Agrees engine env entry.1 entry.2 results)
          ((loaded.suites.flatMap (·.tests)).zip parameters) reports := by
  intro sums others fs paths engine env
  have hfresh : StartsAfresh engine := startsAfresh_scripted _
  have hok : ∀ path ∈ paths, (load fs path).isOk = true := by decide +kernel
  have hsuites : ∀ path ∈ paths, ∃ suite, load fs path = .ok suite := by
    intro path hpath
    have hload := hok path hpath
    cases hsuite : load fs path with
    | ok suite => exact ⟨suite, rfl⟩
    | error e =>
      rw [hsuite] at hload
      cases hload
  obtain ⟨loaded, parameters, hloaded, hcollect, -, hreports, hreadable⟩ :=
    collect_agrees hfresh env hsuites .normal
  obtain ⟨report, hreport⟩ := hreadable (onlyRaises_silent _)
  obtain ⟨reports, hflatten, hagrees⟩ := hreports report hreport
  exact ⟨hfresh, hsuites, by decide +kernel, loaded, parameters, report, reports, hloaded, hcollect, hreport, hflatten,
    hagrees⟩

end Verdicts

end SuiteRunner.Proofs
