import SuiteRunner.CommandLine.Engines
import SuiteRunner.Proofs.Accounting
import SuiteRunner.Proofs.FoundFiles
import SuiteRunner.Proofs.RuntimeNames

/-!
# The exit code

What the exit code of the command line tells: whether there is something to run with, and whether every file was
loaded and every run passed.
-/

namespace SuiteRunner.Proofs
open CommandLine

/-- The runs of the tests that apply pass one after the other, each from the state that the one before it left. -/
inductive Passes {σ : Type} (engine : Engine σ) (env : Environment) : List (TestCase × Mode) → σ → Prop
  | done {s : σ} : Passes engine env [] s
  | skipped {test : TestCase} {mode : Mode} {runs : List (TestCase × Mode)} {s : σ}
    (applies : test.applies env = false) (rest : Passes engine env runs s) : Passes engine env ((test, mode) :: runs) s
  | run {test : TestCase} {mode : Mode} {runs : List (TestCase × Mode)} {s between : σ} {calls : List CallRecord}
    (applies : test.applies env = true) (first : RunsTo engine test mode s (.ok .passed) calls between)
    (rest : Passes engine env runs between) : Passes engine env ((test, mode) :: runs) s

/-- The suites of those files that can be loaded. -/
def suitesOf (fs : FileSystem) (files : List Path) : List Suite :=
  (files.filter (! fs.isDir ·)).filterMap fun file => (TestFile.load fs file).toOption

/-- The runs of the tests that are selected in these files. -/
def selectedRuns (fs : FileSystem) (options : Options) (files : List Path) : List (TestCase × Mode) :=
  (allRuns (suitesOf fs files)).filter fun run => ∀ name ∈ options.only, IsNamed name run.1

/-- If there is an engine and the tests are not only listed, no run of a test that is selected raises a fault in place
of a verdict. -/
def Reports (fs : FileSystem) (catalogue : Catalogue AnyEngine) (options : Options) (config : Config)
    (files : List Path) : Prop :=
  options.list = false → ∀ found, catalogue.resolve config.runtime = .ok found → ∃ report calls s',
    Session found.engine config.environment (selectedRuns fs options files) found.initial report none calls s'

/-- All files are loaded, and unless the tests are only listed there is an engine on which those pass that are
selected. -/
structure IsGreen (fs : FileSystem) (catalogue : Catalogue AnyEngine) (options : Options) (config : Config)
    (files : List Path) : Prop where
  loads : ∀ file ∈ files, fs.isDir file = false → ∃ suite, TestFile.load fs file = .ok suite
  passes : options.list = false → ∃ found, catalogue.resolve config.runtime = .ok found ∧
    Passes found.engine config.environment (selectedRuns fs options files) found.initial

/-- What the exit code tells. -/
inductive ExitsWith (tools : Config.Tools) (fs : FileSystem) (catalogue : Catalogue AnyEngine) (options : Options) :
    Nat → Prop
  | refused {e : ConfigError} (hload : Config.load tools fs (Path.ofText options.config) = .error (.refused e)) :
    ExitsWith tools fs catalogue options 2
  | noEngine {config : Config} {e : FactoryError}
    (hload : Config.load tools fs (Path.ofText options.config) = .ok config) (hlist : options.list = false)
    (herror : catalogue.resolve config.runtime = .error e)
    (hmissing : e ≠ .malformed config.runtime ∧ ∀ moduleName, e ≠ .relative moduleName) :
    ExitsWith tools fs catalogue options 2
  | green {config : Config} {files : List Path}
    (hload : Config.load tools fs (Path.ofText options.config) = .ok config) (hfinds : Finds fs config files)
    (hgreen : IsGreen fs catalogue options config files) : ExitsWith tools fs catalogue options 0
  | red {config : Config} {files : List Path}
    (hload : Config.load tools fs (Path.ofText options.config) = .ok config) (hfinds : Finds fs config files)
    (hengine : options.list = false → ∃ found, catalogue.resolve config.runtime = .ok found)
    (hred : ¬ IsGreen fs catalogue options config files) : ExitsWith tools fs catalogue options 1

section Sessions

variable {σ : Type} {engine : Engine σ} {env : Environment}

/-- A session comes to a report without failures exactly if all runs that were made passed. -/
theorem Session.passes_iff {runs : List (TestCase × Mode)} {s s' : σ} {report : Report} {stop : Option Fault}
    {calls : List CallRecord} (h : Session engine env runs s report stop calls s') :
    stop = none ∧ report.failures = [] ↔ Passes engine env runs s := by
  -- a run is decided by the state it starts from, so both relations pass through the same states
  induction h with
  | done => exact iff_of_true ⟨rfl, rfl⟩ .done
  | skipped applies _ ih =>
    constructor
    · intro hnone
      exact .skipped applies (ih.mp hnone)
    · intro hpasses
      cases hpasses with
      | skipped _ rest => exact ih.mpr rest
      | run goes => exact absurd (applies.symm.trans goes) (by decide)
  | run applies first _ ih =>
    constructor
    · rintro ⟨hstop, hnone⟩
      rcases first.verdict_cases with rfl | ⟨failure, rfl⟩
      · exact .run applies first (ih.mp ⟨hstop, hnone⟩)
      · cases hnone
    · intro hpasses
      cases hpasses with
      | skipped skips => exact absurd (applies.symm.trans skips) (by decide)
      | run _ passed rest =>
        obtain ⟨hverdict, rfl⟩ := first.unique passed
        cases hverdict
        exact ih.mpr rest
  | stopped applies first =>
    refine iff_of_false (by rintro ⟨⟨⟩, -⟩) fun hpasses => ?_
    cases hpasses with
    | skipped skips => exact absurd (applies.symm.trans skips) (by decide)
    | run _ passed => cases (first.unique passed).1

lemma runSuites_eq_ok_iff_session {only : Option Text} {suites : List Suite} {s : σ} {report : Report} :
    (engine.runSuites env only suites s).value = .ok report ↔
      ∃ calls s', Session engine env ((allRuns suites).filter fun run => ∀ name ∈ only, IsNamed name run.1) s report
        none calls s' := by
  rw [← sessionRuns_eq]
  constructor
  · intro hreport
    obtain ⟨made, stop, calls, s', h⟩ := exists_session engine env (sessionRuns only suites) s
    rw [(runSuites_of_session h).1] at hreport
    cases stop with
    | none => exact ⟨calls, s', Except.ok.inj hreport ▸ h⟩
    | some raised => cases hreport
  · rintro ⟨calls, s', h⟩
    exact (runSuites_of_session h).1

end Sessions

section Files

variable (fs : FileSystem) (files : List Path)

lemma loadedFrom_suites : (loadedFrom fs files).suites = suitesOf fs files :=
  (isAccount_loadPath fs files).loaded

lemma hasErrors_loadedFrom_iff :
    (loadedFrom fs files).diagnostics.hasErrors = false ↔
      ∀ file ∈ files, fs.isDir file = false → ∃ suite, TestFile.load fs file = .ok suite := by
  have hcount : (suitesOf fs files).length + (loadedFrom fs files).diagnostics.count .error =
      (files.filter (! fs.isDir ·)).length := by
    rw [← loadedFrom_suites]
    exact (isAccount_loadPath fs files).errors
  have herrors : (loadedFrom fs files).diagnostics.hasErrors = false ↔
      (suitesOf fs files).length = (files.filter (! fs.isDir ·)).length := by
    rw [Diagnostics.hasErrors_eq, decide_eq_false_iff_not]
    omega
  have hloads (file : Path) : (TestFile.load fs file).toOption.isSome = true ↔
      ∃ suite, TestFile.load fs file = .ok suite := by
    cases TestFile.load fs file <;> simp [Except.toOption]
  rw [herrors, suitesOf, List.filterMap_length_eq_length]
  simp only [hloads, List.mem_filter, Bool.not_eq_true', and_imp]

end Files

section Calls

variable {tools : Config.Tools} {fs : FileSystem} {catalogue : Catalogue AnyEngine} {options : Options}
  {config : Config} {files : List Path} {out : Output}

lemma perform_of_refused {e : ConfigError}
    (h : Config.load tools fs (Path.ofText options.config) = .error (.refused e)) :
    perform tools fs catalogue options = .printed ⟨2, [], errorLine e.message⟩ := by
  simp only [perform, h]

lemma perform_eq_printed_iff (h : Config.load tools fs (Path.ofText options.config) = .ok config) :
    perform tools fs catalogue options = .printed out ↔
      ∃ files, Finds fs config files ∧ proceed catalogue options config (loadedFrom fs files) = .printed out := by
  simp only [perform, h]
  cases hloaded : (config.testFiles fs).bind fun paths => TestFile.loadAll fs [] paths.flatten with
  | error fault =>
    constructor
    · exact nofun
    · rintro ⟨files, hfinds, -⟩
      rw [loadAll_testFiles_eq_ok_iff.mpr ⟨files, hfinds, rfl⟩] at hloaded
      cases hloaded
  | ok loaded =>
    constructor
    · intro hprinted
      obtain ⟨files, hfinds, rfl⟩ := loadAll_testFiles_eq_ok_iff.mp hloaded
      exact ⟨files, hfinds, hprinted⟩
    · rintro ⟨files, hfinds, hprinted⟩
      rw [loadAll_testFiles_eq_ok_iff.mpr ⟨files, hfinds, rfl⟩] at hloaded
      cases hloaded
      exact hprinted

lemma Finds.unique {files' : List Path} (h : Finds fs config files) (h' : Finds fs config files') : files = files' := by
  obtain ⟨parts, hparts, rfl⟩ := h
  obtain ⟨parts', hparts', rfl⟩ := h'
  have hsearch := mapM_eq_ok_iff.mpr (forall₂_findsIn_iff.mp hparts).1
  rw [mapM_eq_ok_iff.mpr (forall₂_findsIn_iff.mp hparts').1] at hsearch
  rw [Except.ok.inj hsearch]

lemma proceed_exit_of_error {e : FactoryError} (hlist : options.list = false)
    (h : catalogue.resolve config.runtime = .error e) {loaded : TestFile.Loaded}
    (hout : proceed catalogue options config loaded = .printed out) : out.exit = 2 := by
  simp only [proceed, hlist, h] at hout
  cases hout
  rfl

lemma proceed_exit_of_list (hlist : options.list = true) {loaded : TestFile.Loaded}
    (hout : proceed catalogue options config loaded = .printed out) :
    out.exit = if loaded.diagnostics.hasErrors = false then 0 else 1 := by
  rw [proceed, if_pos hlist] at hout
  cases hout
  cases loaded.diagnostics.hasErrors <;> rfl

lemma proceed_eq_runTests {found : AnyEngine} (hlist : options.list = false)
    (h : catalogue.resolve config.runtime = .ok found) (loaded : TestFile.Loaded) :
    proceed catalogue options config loaded =
      CommandLine.runTests options config.environment loaded (preamble config.environment loaded) found := by
  simp [proceed, hlist, h]

lemma runTests_eq_printed_iff {found : AnyEngine} {loaded : TestFile.Loaded} {before : List Text} :
    (∃ out, CommandLine.runTests options config.environment loaded before found = .printed out) ↔
      ∃ report, (found.engine.runSuites config.environment options.only loaded.suites found.initial).value
        = .ok report := by
  rw [CommandLine.runTests]
  cases (found.engine.runSuites config.environment options.only loaded.suites found.initial).value with
  | error fault => exact iff_of_false nofun nofun
  | ok report => exact iff_of_true ⟨_, rfl⟩ ⟨_, rfl⟩

lemma runTests_exit {found : AnyEngine} {loaded : TestFile.Loaded} {before : List Text}
    (hout : CommandLine.runTests options config.environment loaded before found = .printed out) :
    ∃ report, (found.engine.runSuites config.environment options.only loaded.suites found.initial).value = .ok report ∧
      out.exit = if loaded.diagnostics.hasErrors = false ∧ report.failures = [] then 0 else 1 := by
  rw [CommandLine.runTests] at hout
  cases hreport : (found.engine.runSuites config.environment options.only loaded.suites found.initial).value with
  | error fault =>
    simp only [hreport] at hout
    cases hout
  | ok report =>
    simp only [hreport] at hout
    cases hout
    refine ⟨report, rfl, ?_⟩
    simp only [← ok_iff]
    cases loaded.diagnostics.hasErrors <;> cases report.ok <;> rfl

lemma isGreen_of_list (hlist : options.list = true) :
    IsGreen fs catalogue options config files ↔ (loadedFrom fs files).diagnostics.hasErrors = false := by
  rw [hasErrors_loadedFrom_iff]
  constructor
  · exact IsGreen.loads
  · intro hloads
    exact ⟨hloads, by simp [hlist]⟩

lemma isGreen_of_ok {found : AnyEngine} (hlist : options.list = false)
    (h : catalogue.resolve config.runtime = .ok found) :
    IsGreen fs catalogue options config files ↔ (loadedFrom fs files).diagnostics.hasErrors = false ∧
      Passes found.engine config.environment (selectedRuns fs options files) found.initial := by
  rw [hasErrors_loadedFrom_iff]
  constructor
  · rintro ⟨hloads, hpasses⟩
    obtain ⟨found', hfound', hpasses⟩ := hpasses hlist
    rw [h] at hfound'
    cases hfound'
    exact ⟨hloads, hpasses⟩
  · rintro ⟨hloads, hpasses⟩
    exact ⟨hloads, fun _ => ⟨found, h, hpasses⟩⟩

open Classical in
lemma proceed_exit (hengine : options.list = false → ∃ found, catalogue.resolve config.runtime = .ok found)
    (hout : proceed catalogue options config (loadedFrom fs files) = .printed out) :
    out.exit = if IsGreen fs catalogue options config files then 0 else 1 := by
  cases hlist : options.list with
  | true =>
    rw [proceed_exit_of_list hlist hout]
    exact if_congr (isGreen_of_list hlist).symm rfl rfl
  | false =>
    obtain ⟨found, hfound⟩ := hengine hlist
    rw [proceed_eq_runTests hlist hfound] at hout
    obtain ⟨report, hreport, hexit⟩ := runTests_exit hout
    rw [loadedFrom_suites, runSuites_eq_ok_iff_session] at hreport
    obtain ⟨calls, s', hsession⟩ := hreport
    have hpasses := hsession.passes_iff
    rw [eq_self_iff_true, true_and] at hpasses
    rw [hexit]
    exact if_congr ((and_congr_right' hpasses).trans (isGreen_of_ok hlist hfound).symm) rfl rfl

lemma exists_proceed_eq_printed_iff :
    (∃ out, proceed catalogue options config (loadedFrom fs files) = .printed out) ↔
      Reports fs catalogue options config files := by
  cases hlist : options.list with
  | true => exact iff_of_true (by simp [proceed, hlist]) (by simp [Reports, hlist])
  | false =>
    cases hfound : catalogue.resolve config.runtime with
    | error e => exact iff_of_true (by simp [proceed, hlist, hfound]) (by simp [Reports, hfound])
    | ok found =>
      simp only [proceed_eq_runTests hlist hfound, runTests_eq_printed_iff, loadedFrom_suites,
        runSuites_eq_ok_iff_session]
      simp [Reports, hlist, hfound, selectedRuns]

lemma reports_of_isReadable
    (h : ∀ found, catalogue.resolve config.runtime = .ok found → OnlyRaises found.engine IsReadable) :
    Reports fs catalogue options config files := by
  intro _ found hfound
  obtain ⟨report, stop, calls, s', hsession⟩ :=
    exists_session found.engine config.environment (selectedRuns fs options files) found.initial
  obtain rfl := hsession.stop_eq_none (h found hfound)
  exact ⟨report, calls, s', hsession⟩

end Calls

section Codes

variable {tools : Config.Tools} (hvalidates : Validates tools.validator Config.schema) {fs : FileSystem}
  {catalogue : Catalogue AnyEngine} {options : Options} {out : Output}

include hvalidates in
lemma exitsWith_of_printed (hload : IsAnswered (Config.load tools fs (Path.ofText options.config)))
    (h : perform tools fs catalogue options = .printed out) : ExitsWith tools fs catalogue options out.exit := by
  rcases hload with ⟨config, hload⟩ | ⟨e, -, hload⟩
  · obtain ⟨files, hfinds, hout⟩ := (perform_eq_printed_iff hload).mp h
    by_cases hengine : options.list = false → ∃ found, catalogue.resolve config.runtime = .ok found
    · rw [proceed_exit hengine hout]
      split_ifs with hgreen
      · exact .green hload hfinds hgreen
      · exact .red hload hfinds hengine hgreen
    · obtain ⟨hlist, hnone⟩ := Classical.not_imp.mp hengine
      cases herror : catalogue.resolve config.runtime with
      | ok found => exact absurd ⟨found, herror⟩ hnone
      | error e =>
        rw [proceed_exit_of_error hlist herror hout]
        have hform := (isRuntimeText_iff.mpr (of_load_eq_ok hvalidates hload).2).resolve_error herror
        exact .noEngine hload hlist herror ⟨hform.1 _, hform.2⟩
  · rw [perform_of_refused hload] at h
    cases h
    exact .refused hload

lemma ExitsWith.exit_eq {code : Nat} (hcode : ExitsWith tools fs catalogue options code)
    (h : perform tools fs catalogue options = .printed out) : out.exit = code := by
  cases hcode with
  | refused hload =>
    rw [perform_of_refused hload] at h
    cases h
    rfl
  | noEngine hload hlist herror =>
    obtain ⟨files, -, hout⟩ := (perform_eq_printed_iff hload).mp h
    exact proceed_exit_of_error hlist herror hout
  | green hload hfinds hgreen =>
    obtain ⟨files, hfinds', hout⟩ := (perform_eq_printed_iff hload).mp h
    cases hfinds.unique hfinds'
    have hengine : options.list = false → ∃ found, catalogue.resolve _ = .ok found := fun hlist =>
      (hgreen.passes hlist).imp fun _ hfound => hfound.1
    rw [proceed_exit hengine hout, if_pos hgreen]
  | red hload hfinds hengine hred =>
    obtain ⟨files, hfinds', hout⟩ := (perform_eq_printed_iff hload).mp h
    cases hfinds.unique hfinds'
    rw [proceed_exit hengine hout, if_neg hred]

include hvalidates in
lemma exists_printed_iff (hload : IsAnswered (Config.load tools fs (Path.ofText options.config))) :
    (∃ out, perform tools fs catalogue options = .printed out) ↔
      ∀ config, Config.load tools fs (Path.ofText options.config) = .ok config →
        (∀ suite ∈ config.suites, ∀ path, IsExamined fs suite path → IsAdmitted fs path) ∧
          ∀ files, Finds fs config files → Reports fs catalogue options config files := by
  rcases hload with ⟨config, hload⟩ | ⟨e, -, hload⟩
  · have hprinted : (∃ out, perform tools fs catalogue options = .printed out) ↔
        ∃ files, Finds fs config files ∧ Reports fs catalogue options config files := by
      simp only [perform_eq_printed_iff hload, ← exists_proceed_eq_printed_iff]
      exact ⟨fun ⟨out, files, hfinds, hout⟩ => ⟨files, hfinds, out, hout⟩,
        fun ⟨files, hfinds, out, hout⟩ => ⟨out, files, hfinds, hout⟩⟩
    have hfinds : (∃ files, Finds fs config files ∧ Reports fs catalogue options config files) ↔
        (∃ files, Finds fs config files) ∧ ∀ files, Finds fs config files → Reports fs catalogue options config files := by
      constructor
      · rintro ⟨files, hfinds, hreports⟩
        exact ⟨⟨files, hfinds⟩, fun files' hfinds' => hfinds.unique hfinds' ▸ hreports⟩
      · rintro ⟨⟨files, hfinds⟩, hreports⟩
        exact ⟨files, hfinds, hreports files hfinds⟩
    rw [hprinted, hfinds, exists_finds_iff (of_load_eq_ok hvalidates hload).1, hload]
    simp
  · rw [perform_of_refused hload, hload]
    simp

end Codes

/-- A call that finds a configuration or a reason why there is none ends with an exit code, unless the finders come
upon a path that the system does not look at or a fault ends the session, which no fault does that can be read. The
code is two if there is nothing to run with, zero if every file was loaded and every run passed, and else one. Where
the tests are only listed no engine is looked for. -/
theorem call_exit {tools : Config.Tools} (hvalidates : Validates tools.validator Config.schema) {fs : FileSystem}
    {catalogue : Catalogue AnyEngine} {arguments : List Text} {options : Options}
    (hread : Request.read arguments = .run options)
    (hload : IsAnswered (Config.load tools fs (Path.ofText options.config))) :
    ((∃ out, call tools fs catalogue arguments = .printed out) ↔
        ∀ config, Config.load tools fs (Path.ofText options.config) = .ok config →
          (∀ suite ∈ config.suites, ∀ path, IsExamined fs suite path → IsAdmitted fs path) ∧
            ∀ files, Finds fs config files → Reports fs catalogue options config files) ∧
      (∀ config files,
        (∀ found, catalogue.resolve config.runtime = .ok found → OnlyRaises found.engine IsReadable) →
          Reports fs catalogue options config files) ∧
      ∀ out, call tools fs catalogue arguments = .printed out →
        (∀ code, out.exit = code ↔ ExitsWith tools fs catalogue options code) ∧
          (options.list = true → ∀ others, call tools fs others arguments = .printed out) := by
  have hcall (others : Catalogue AnyEngine) : call tools fs others arguments = perform tools fs others options := by
    rw [call, hread]
  simp only [hcall]
  refine ⟨exists_printed_iff hvalidates hload, fun config files => reports_of_isReadable,
    fun out hout => ⟨fun code => ?_, fun hlist others => ?_⟩⟩
  · constructor
    · rintro rfl
      exact exitsWith_of_printed hvalidates hload hout
    · intro hcode
      exact hcode.exit_eq hout
  · rw [← hout]
    unfold perform proceed
    simp only [hlist, if_true]

/-- One test, whose sum is right. -/
theorem call_exit_right_sum :
    let config := encoded "version: '1.0'\nruntime: engines:world\nsuites:\n- finder: txts_in_dir\n  path: sums\n".toList
    let sums : FileTree := .dir [("a.txt".toList, .file (encoded "Sum\n  1 + 1 => 2\n".toList))]
    let fs : FileSystem := ⟨.dir [("conf".toList, .file config), ("sums".toList, sums)], []⟩
    Validates tools.validator Config.schema ∧ ∃ options, Request.read ["conf".toList] = .run options ∧
      IsAnswered (Config.load tools fs (Path.ofText options.config)) ∧ ExitsWith tools fs engines options 0 := by
  intro config sums fs
  have hvalidates : Validates tools.validator Config.schema := validates_schemaViolations Config.schema
  have hread : Request.read ["conf".toList] = .run ⟨"conf".toList, none, false, 0⟩ := by decide
  have hload : Config.load tools fs ⟨[], ["conf".toList]⟩ =
      .ok ⟨"1.0".toList, "engines:world".toList, {}, [⟨.inDirectory, ⟨['/'], ["sums".toList]⟩⟩]⟩ := by decide +kernel
  have hanswered : IsAnswered (Config.load tools fs (Path.ofText "conf".toList)) := .inl ⟨_, hload⟩
  have hexit :
      (match call tools fs engines ["conf".toList] with | .printed out => some out.exit | _ => none) = some 0 := by
    decide +kernel
  refine ⟨hvalidates, _, hread, hanswered, ?_⟩
  split at hexit
  case h_1 out hout => exact ((call_exit hvalidates hread hanswered).2.2 out hout).1 0 |>.mp (Option.some.inj hexit)
  case h_2 => cases hexit

/-- The directory that the configuration names and the name of its one file are not too long, but the path of the file
is, by one octet. -/
theorem call_deep_file :
    let name := List.replicate 255 'd'
    let config := encoded "version: '1.0'\nruntime: engines:world\nsuites:\n- finder: txts_in_dir\n  path: .\n".toList
    let entries := [("conf".toList, .file config), (List.replicate 251 'n' ++ ".txt".toList, .file (encoded "Sum".toList))]
    let fs : FileSystem :=
      ⟨(List.replicate 15 name).foldr (fun name tree => .dir [(name, tree)]) (.dir entries), List.replicate 15 name⟩
    let arguments := ["conf".toList, "--list".toList]
    ∃ options, Request.read arguments = .run options ∧
      IsAnswered (Config.load tools fs (Path.ofText options.config)) ∧
        ∀ out, call tools fs engines arguments ≠ .printed out := by
  intro name config entries fs arguments
  have hread : Request.read arguments = .run ⟨"conf".toList, none, true, 0⟩ := by decide
  have hload : Config.load tools fs ⟨[], ["conf".toList]⟩ =
      .ok ⟨"1.0".toList, "engines:world".toList, {}, [⟨.inDirectory, ⟨['/'], List.replicate 15 name⟩⟩]⟩ := by
    decide +kernel
  have hanswered : IsAnswered (Config.load tools fs (Path.ofText "conf".toList)) := .inl ⟨_, hload⟩
  have hcall :
      (match call tools fs engines arguments with | .unreadable _ (.file .tooLong) => true | _ => false) = true := by
    decide +kernel
  refine ⟨_, hread, hanswered, fun out hout => ?_⟩
  rw [hout] at hcall
  cases hcall

end SuiteRunner.Proofs
