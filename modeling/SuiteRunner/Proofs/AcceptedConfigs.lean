import SuiteRunner.Proofs.ConfigLoading
import SuiteRunner.Proofs.FoundFiles
import SuiteRunner.Proofs.RuntimeNames

/-!
# Data that are accepted

The data of a run configuration are described here by what they hold: a version, the name of a runtime, the flags of
the environment and a list of suites whose directories are there. The main statement is that exactly these data give
a configuration, and it tells which data give neither a configuration nor a reason why there is none. It holds for
every validator that is right about the schema.
-/

namespace SuiteRunner.Proofs
open Config

/-- The data describe a configuration, in which the directories are still those of the data. -/
structure Describes (data : Data) (version runtime : Text) (env : Environment) (suites : List (Finder × Text)) :
    Prop where
  keys : IsMapOf ["version".toList, "runtime".toList, "environment".toList, "suites".toList] data
  hasVersion : HasText data "version".toList version
  isVersion : IsVersionText version
  hasRuntime : HasText data "runtime".toList runtime
  isRuntime : IsRuntimeText runtime
  environment : HasEnvironment data env
  suites : ∃ listed, data.field? "suites".toList = some listed ∧ IsSuiteList listed suites

/-- The suite looks at the directory, as seen from the base, and it is there. -/
structure IsLocated (fs : FileSystem) (base : Path) (described : Finder × Text) (suite : SuiteSpec) : Prop where
  finder : suite.finder = described.1
  free : (base.join (Path.ofText described.2)).hasNul = false
  path : suite.path = fs.resolve (base.join (Path.ofText described.2))
  isDir : fs.isDir suite.path = true

/-- The data describe the configuration, and its directories are there. -/
def IsConfigOf (fs : FileSystem) (base : Path) (data : Data) (config : Config) : Prop :=
  ∃ suites, Describes data config.version config.runtime config.environment suites ∧
    List.Forall₂ (IsLocated fs base) suites config.suites

section Locating

variable {fs : FileSystem} {base : Path} {data : Data}

lemma describes_iff {version runtime : Text} {env : Environment} {suites : List (Finder × Text)} :
    Describes data version runtime env suites ↔ IsConfigData data version runtime env suites := by
  constructor
  · rintro ⟨hkeys, hversion, hisVersion, hruntime, hisRuntime, henv, hsuites⟩
    exact ⟨hkeys, hversion, isVersionText_iff.mp hisVersion, hruntime, isRuntimeText_iff.mp hisRuntime, henv, hsuites⟩
  · rintro ⟨hkeys, hversion, hisVersion, hruntime, hisRuntime, henv, hsuites⟩
    exact ⟨hkeys, hversion, isVersionText_iff.mpr hisVersion, hruntime, isRuntimeText_iff.mpr hisRuntime, henv,
      hsuites⟩

lemma isAdmitted_of_isDir {path : Path} (h : fs.isDir path = true) : IsAdmitted fs path := by
  obtain ⟨entries, hfind⟩ := isDir_eq_true_iff.mp h
  rw [isAdmitted_iff]
  simp [FileSystem.pathFault?, hfind]

lemma located_eq_ok_iff {given found : Config} :
    given.located fs = .ok found ↔ found = given.resolved fs ∧
      ∀ suite ∈ given.suites, suite.path.hasNul = false ∧ fs.isDir (fs.resolve suite.path) = true := by
  constructor
  · intro h
    have hlocatable := isAnswered_located_iff.mp (.inl ⟨found, h⟩)
    obtain ⟨hdirs, hfound⟩ := located_eq_ok h
    exact ⟨hfound, fun suite hsuite => ⟨(hlocatable suite hsuite).1, hdirs suite hsuite⟩⟩
  · rintro ⟨rfl, hall⟩
    rw [located_of_isLocatable fun suite hsuite => ⟨(hall suite hsuite).1, isAdmitted_of_isDir (hall suite hsuite).2⟩,
      if_pos fun suite hsuite => (hall suite hsuite).2]

/-- The suites whose directories are still those of the data, as seen from the base. -/
def suitesFrom (base : Path) (suites : List (Finder × Text)) : List SuiteSpec :=
  suites.map fun suite => ⟨suite.1, base.join (Path.ofText suite.2)⟩

lemma forall₂_isLocated_iff {suites : List (Finder × Text)} {found : List SuiteSpec} :
    List.Forall₂ (IsLocated fs base) suites found ↔
      found = (suitesFrom base suites).map (fun suite => { suite with path := fs.resolve suite.path }) ∧
        ∀ suite ∈ suitesFrom base suites, suite.path.hasNul = false ∧ fs.isDir (fs.resolve suite.path) = true := by
  rw [suitesFrom, List.forall_mem_map, List.map_map]
  constructor
  · intro h
    induction h with
    | nil => exact ⟨rfl, nofun⟩
    | @cons described suite suites found hfirst _ ih =>
      obtain ⟨finder, path⟩ := suite
      obtain ⟨rfl, hfree, rfl, hdir⟩ := hfirst
      exact ⟨congrArg _ ih.1, List.forall_mem_cons.mpr ⟨⟨hfree, hdir⟩, ih.2⟩⟩
  · rintro ⟨rfl, h⟩
    rw [List.forall₂_map_right_iff, List.forall₂_same]
    exact fun suite hsuite => ⟨rfl, (h suite hsuite).1, rfl, (h suite hsuite).2⟩

variable {validator : Validator} (hvalidates : Validates validator schema)
include hvalidates

lemma ofData_eq_ok_iff_of_describes {version runtime : Text} {env : Environment} {suites : List (Finder × Text)}
    {config : Config} (h : Describes data version runtime env suites) :
    ofData validator fs base data = .ok config ↔ config.version = version ∧ config.runtime = runtime ∧
      config.environment = env ∧ List.Forall₂ (IsLocated fs base) suites config.suites := by
  have hlocated : ofData validator fs base data = located fs ⟨version, runtime, env, suitesFrom base suites⟩ :=
    ofData_of_isConfigData hvalidates (describes_iff.mp h)
  rw [hlocated, located_eq_ok_iff, forall₂_isLocated_iff, ← and_assoc, ← and_assoc, ← and_assoc]
  apply and_congr_left'
  cases config
  simp [resolved, and_assoc]

lemma ofData_eq_ok_iff {config : Config} :
    ofData validator fs base data = .ok config ↔ IsConfigOf fs base data config := by
  constructor
  · intro h
    obtain ⟨version, runtime, env, suites, hform⟩ := exists_isConfigData hvalidates h
    have hdescribes := describes_iff.mpr hform
    obtain ⟨rfl, rfl, rfl, hlocated⟩ := (ofData_eq_ok_iff_of_describes hvalidates hdescribes).mp h
    exact ⟨suites, hdescribes, hlocated⟩
  · rintro ⟨suites, hdescribes, hlocated⟩
    exact (ofData_eq_ok_iff_of_describes hvalidates hdescribes).mpr ⟨rfl, rfl, rfl, hlocated⟩

end Locating

/-- The data that describe a configuration whose directories are there give it, and no other data give one. All other
data are refused with a reason, except where the validator gives no answer or the system does not look at one of the
directories. -/
theorem ofData_accepts {validator : Validator} (hvalidates : Validates validator schema) (fs : FileSystem)
    (base : Path) (data : Data) :
    (∀ config, ofData validator fs base data = .ok config ↔ IsConfigOf fs base data config) ∧
      (IsAnswered (ofData validator fs base data) ↔ (∃ found, validator schema data = .ok found) ∧
        ∀ version runtime env suites, Describes data version runtime env suites →
          ∀ suite ∈ suites, IsLocatable fs (base.join (Path.ofText suite.2))) := by
  refine ⟨fun _ => ofData_eq_ok_iff hvalidates, ?_⟩
  simp only [isAnswered_ofData_iff hvalidates, describes_iff]

/-- Data of a configuration with one suite. -/
def withOneSuite (finder : Finder) (directory : Text) : Data :=
  .map [(.text "version".toList, .scalar (.text "1.0".toList)),
    (.text "runtime".toList, .scalar (.text "fakes:make_runtime".toList)),
    (.text "suites".toList, .list [.map [(.text "finder".toList, .scalar (.text finder.name)),
      (.text "path".toList, .scalar (.text directory))]])]

lemma describes_withOneSuite {finder : Finder} {directory : Text} (h : directory ≠ []) :
    Describes (withOneSuite finder directory) "1.0".toList "fakes:make_runtime".toList {} [(finder, directory)] := by
  refine ⟨⟨_, rfl, by simp⟩, rfl, isVersionText_iff.mpr (by decide +kernel), rfl,
    isRuntimeText_iff.mpr (by decide +kernel), .inl ⟨rfl, rfl⟩, ⟨_, rfl, _, rfl, by simp, ?_⟩⟩
  exact .cons ⟨⟨_, rfl, by simp⟩, rfl, rfl, h⟩ .nil

/-- One suite, whose directory is there. -/
theorem ofData_accepts_one_suite :
    let fs : FileSystem := ⟨.dir [("sums".toList, .dir [])], []⟩
    Validates CommandLine.tools.validator schema ∧
      ofData CommandLine.tools.validator fs ⟨['/'], []⟩ (withOneSuite .below "sums".toList) =
        .ok ⟨"1.0".toList, "fakes:make_runtime".toList, {}, [⟨.below, ⟨['/'], ["sums".toList]⟩⟩]⟩ := by
  intro fs
  have hvalidates : Validates CommandLine.tools.validator schema := validates_schemaViolations schema
  have hdata : Describes (withOneSuite .below "sums".toList) _ _ _ _ := describes_withOneSuite (by decide)
  have hlocated : IsLocated fs ⟨['/'], []⟩ (.below, "sums".toList) ⟨.below, ⟨['/'], ["sums".toList]⟩⟩ :=
    ⟨rfl, by decide, by decide, by decide⟩
  exact ⟨hvalidates, ((ofData_accepts hvalidates fs ⟨['/'], []⟩ _).1 _).mpr ⟨_, hdata, .cons hlocated .nil⟩⟩

/-- There is no directory whose name is longer than the system admits, but nothing says so. -/
theorem ofData_long_name :
    let name := List.replicate 256 'd'
    let data := withOneSuite .inDirectory name
    let fs : FileSystem := ⟨.dir [], []⟩
    let validator := CommandLine.tools.validator
    Describes data "1.0".toList "fakes:make_runtime".toList {} [(.inDirectory, name)] ∧ Char.ofNat 0 ∉ name ∧
      (∀ config, ofData validator fs ⟨['/'], []⟩ data ≠ .ok config) ∧
        ¬ IsAnswered (ofData validator fs ⟨['/'], []⟩ data) := by
  intro name data fs validator
  have hload : ofData validator fs ⟨['/'], []⟩ data = .error (.unreadable ⟨['/'], [name]⟩ (.file .tooLong)) := by
    decide +kernel
  refine ⟨describes_withOneSuite (by decide), by decide, ?_, ?_⟩
  · intro config
    rw [hload]
    exact nofun
  · rw [hload]
    exact not_isAnswered nofun

end SuiteRunner.Proofs
