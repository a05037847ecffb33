import SuiteRunner.CommandLine.Engines
import SuiteRunner.Proofs.ConfigData
import SuiteRunner.Proofs.LoadedFiles

/-!
# Configurations that are loaded

A file is a configuration or it is refused with a reason, unless something stands in the way that is no reason. The
main statement lists what may stand in the way, for any reader of texts and any validator that is right about the
schema.
-/

namespace SuiteRunner.Proofs
open Config

/-- There is a configuration, or a reason why there is none, and never that what was found right is no map. -/
def IsAnswered (loaded : Except Config.LoadError Config) : Prop :=
  (∃ config, loaded = .ok config) ∨ ∃ e, e ≠ .notAMap ∧ loaded = .error (.refused e)

/-- The system looks at the directory when the path is resolved. -/
def IsLocatable (fs : FileSystem) (directory : Path) : Prop :=
  directory.hasNul = false ∧ IsAdmitted fs (fs.resolve directory)

/-- What keeps the file at the path from being a configuration without being a reason to refuse it: there is
something else than a file, or the file is no text and is read up to that point, or reading or checking the data
fails, or the system does not look at the directory of a suite. -/
inductive Obstacle (tools : Tools) (fs : FileSystem) (path : Path) : Prop where
  | file {fault : FileFault} (h : fs.octets path = .error fault) (hthere : fault ≠ .notFound)
  | encoding {octets : List UInt8} {front : Text} {fault : Utf8.Fault} (h : fs.octets path = .ok octets)
    (hnone : ∀ t, octets ≠ encoded t) (hdecode : Utf8.decodePieces pieceLength octets = (front, some fault))
    (hread : tools.reader.frontFault? front.uniformNewlines = none)
  | reader {octets : List UInt8} {fault : Fault} (h : fs.octets path = .ok octets)
    (hdata : dataOf tools.reader path octets = .error (.raised fault))
  | validator {octets : List UInt8} {data : Data} {fault : Fault} (h : fs.octets path = .ok octets)
    (hdata : dataOf tools.reader path octets = .ok data) (hcheck : tools.validator schema data = .error fault)
  | directory {octets : List UInt8} {data : Data} {version runtime : Text} {env : Environment}
    {suites : List (Finder × Text)} {suite : Finder × Text} (h : fs.octets path = .ok octets)
    (hdata : dataOf tools.reader path octets = .ok data) (hform : IsConfigData data version runtime env suites)
    (hsuite : suite ∈ suites) (hlost : ¬ IsLocatable fs (path.parent.join (Path.ofText suite.2)))

section Directories

variable {fs : FileSystem} {config : Config}

lemma paths_resolved :
    (config.resolved fs).suites.map SuiteSpec.path = config.suites.map fun suite => fs.resolve suite.path := by
  simp [resolved]

lemma located_of_isLocatable (h : ∀ suite ∈ config.suites, IsLocatable fs suite.path) :
    config.located fs =
      if ∀ suite ∈ config.suites, fs.isDir (fs.resolve suite.path) = true then .ok (config.resolved fs)
      else .error (.refused (.missingDirectories
        ((config.suites.map fun suite => fs.resolve suite.path).filter (! fs.isDir ·)))) := by
  have hnul : (config.suites.map SuiteSpec.path).find? Path.hasNul = none := by
    rw [List.find?_eq_none]
    intro path hpath
    obtain ⟨suite, hsuite, rfl⟩ := List.mem_map.mp hpath
    rw [(h suite hsuite).1]
    exact nofun
  have hadmitted : fs.firstPathFault? (config.suites.map fun suite => fs.resolve suite.path) = none := by
    rw [firstPathFault?_eq_none_iff]
    intro path hpath
    obtain ⟨suite, hsuite, rfl⟩ := List.mem_map.mp hpath
    exact (h suite hsuite).2
  simp only [located, hnul, paths_resolved, hadmitted]
  simp [List.filter_eq_nil_iff]

lemma located_of_not_isLocatable {suite : SuiteSpec} (hsuite : suite ∈ config.suites)
    (h : ¬ IsLocatable fs suite.path) : ∃ path fault, config.located fs = .error (.unreadable path fault) := by
  unfold located
  cases hnul : (config.suites.map SuiteSpec.path).find? Path.hasNul with
  | some path => exact ⟨_, _, rfl⟩
  | none =>
    have hfault : fs.firstPathFault? (config.suites.map fun suite => fs.resolve suite.path) ≠ none := by
      rw [Ne, firstPathFault?_eq_none_iff]
      intro hadmitted
      have hfree := List.find?_eq_none.mp hnul suite.path (List.mem_map_of_mem hsuite)
      rw [Bool.not_eq_true] at hfree
      exact h ⟨hfree, hadmitted _ (List.mem_map_of_mem hsuite)⟩
    obtain ⟨⟨path, fault⟩, hsome⟩ := Option.ne_none_iff_exists'.mp hfault
    simp only [paths_resolved, hsome]
    exact ⟨_, _, rfl⟩

lemma isAnswered_located_iff : IsAnswered (config.located fs) ↔ ∀ suite ∈ config.suites, IsLocatable fs suite.path := by
  constructor
  · intro h suite hsuite
    by_contra hlost
    obtain ⟨path, fault, hlocated⟩ := located_of_not_isLocatable hsuite hlost
    rw [hlocated] at h
    rcases h with ⟨_, h⟩ | ⟨_, _, h⟩ <;> cases h
  · intro h
    rw [located_of_isLocatable h]
    split_ifs
    · exact .inl ⟨_, rfl⟩
    · exact .inr ⟨.missingDirectories _, nofun, rfl⟩

lemma located_eq_ok {found : Config} (h : config.located fs = .ok found) :
    (∀ suite ∈ config.suites, fs.isDir (fs.resolve suite.path) = true) ∧ found = config.resolved fs := by
  have hlocatable : ∀ suite ∈ config.suites, IsLocatable fs suite.path := by
    rw [← isAnswered_located_iff, h]
    exact .inl ⟨found, rfl⟩
  rw [located_of_isLocatable hlocatable] at h
  split_ifs at h with hdirs
  exact ⟨hdirs, (Except.ok.inj h).symm⟩

end Directories

section Checks

variable {validator : Validator} {fs : FileSystem} {base : Path} {data : Data}

lemma not_isAnswered {e : Config.LoadError} (h : ∀ reason, e ≠ .refused reason) : ¬ IsAnswered (.error e) := by
  rintro (⟨_, hloaded⟩ | ⟨reason, -, hloaded⟩)
  · cases hloaded
  · exact h reason (Except.error.inj hloaded)

lemma ofData_of_validator_error {fault : Fault} (h : validator schema data = .error fault) :
    ofData validator fs base data = .error (.raised fault) := by
  rw [ofData, problems, h]
  rfl

lemma ofData_of_validator_ok {found : List Violation} (h : validator schema data = .ok found) (hne : found ≠ []) :
    ofData validator fs base data = .error (.refused (.invalid (found.mergeSort Violation.le))) := by
  have hlength : (found.mergeSort Violation.le).length = found.length := List.length_mergeSort found
  rw [ofData, problems, h, Except.map]
  cases hsorted : found.mergeSort Violation.le with
  | nil =>
    rw [hsorted] at hlength
    exact absurd (List.length_eq_zero_iff.mp hlength.symm) hne
  | cons problem others => rfl

lemma ofData_of_validator_nil (h : validator schema data = .ok []) :
    ofData validator fs base data = ofMap fs base data := by
  rw [ofData, problems, h, Except.map, List.mergeSort_nil]

lemma ofMap_of_isConfigData {version runtime : Text} {env : Environment} {suites : List (Finder × Text)}
    (h : IsConfigData data version runtime env suites) :
    ofMap fs base data =
      Config.located fs
        ⟨version, runtime, env, suites.map fun suite => ⟨suite.1, base.join (Path.ofText suite.2)⟩⟩ := by
  obtain ⟨fields, rfl, -⟩ := h.keys
  simp only [ofMap, parts?_eq h]

variable (hvalidates : Validates validator schema)
include hvalidates

lemma Validates.eq_ok_nil_iff :
    validator schema data = .ok [] ↔ ∃ version runtime env suites, IsConfigData data version runtime env suites :=
  (hvalidates data).trans satisfies_schema_iff

lemma ofData_of_isConfigData {version runtime : Text} {env : Environment} {suites : List (Finder × Text)}
    (h : IsConfigData data version runtime env suites) :
    ofData validator fs base data =
      Config.located fs
        ⟨version, runtime, env, suites.map fun suite => ⟨suite.1, base.join (Path.ofText suite.2)⟩⟩ := by
  rw [ofData_of_validator_nil (hvalidates.eq_ok_nil_iff.mpr ⟨_, _, _, _, h⟩), ofMap_of_isConfigData h]

lemma isAnswered_ofData_of_isConfigData {version runtime : Text} {env : Environment} {suites : List (Finder × Text)}
    (h : IsConfigData data version runtime env suites) : IsAnswered (ofData validator fs base data) ↔
      ∀ suite ∈ suites, IsLocatable fs (base.join (Path.ofText suite.2)) := by
  rw [ofData_of_isConfigData hvalidates h, isAnswered_located_iff, List.forall_mem_map]

lemma isAnswered_ofData_iff : IsAnswered (ofData validator fs base data) ↔
    (∃ found, validator schema data = .ok found) ∧
      ∀ version runtime env suites, IsConfigData data version runtime env suites →
        ∀ suite ∈ suites, IsLocatable fs (base.join (Path.ofText suite.2)) := by
  cases hcheck : validator schema data with
  | error fault =>
    rw [ofData_of_validator_error hcheck]
    exact iff_of_false (not_isAnswered nofun) (by rintro ⟨⟨_, h⟩, -⟩; cases h)
  | ok found =>
    by_cases hnone : found = []
    · rw [hnone] at hcheck
      obtain ⟨version, runtime, env, suites, hform⟩ := hvalidates.eq_ok_nil_iff.mp hcheck
      constructor
      · intro hanswered
        exact ⟨⟨_, rfl⟩, fun _ _ _ _ h => (isAnswered_ofData_of_isConfigData hvalidates h).mp hanswered⟩
      · rintro ⟨-, hall⟩
        exact (isAnswered_ofData_of_isConfigData hvalidates hform).mpr (hall version runtime env suites hform)
    · rw [ofData_of_validator_ok hcheck hnone]
      refine iff_of_true (.inr ⟨.invalid _, nofun, rfl⟩) ⟨⟨_, rfl⟩, fun version runtime env suites h => ?_⟩
      have hnil := hvalidates.eq_ok_nil_iff.mpr ⟨_, _, _, _, h⟩
      exact absurd (Except.ok.inj (hcheck.symm.trans hnil)) hnone

lemma exists_isConfigData {config : Config} (h : ofData validator fs base data = .ok config) :
    ∃ version runtime env suites, IsConfigData data version runtime env suites := by
  rw [← hvalidates.eq_ok_nil_iff]
  cases hcheck : validator schema data with
  | error fault =>
    rw [ofData_of_validator_error hcheck] at h
    cases h
  | ok found =>
    by_cases hnone : found = []
    · rw [hnone]
    · rw [ofData_of_validator_ok hcheck hnone] at h
      cases h

end Checks

section Files

variable {tools : Tools} {fs : FileSystem} {path : Path}

lemma decodePieces_eq_none {octets : List UInt8} {t front : Text} {fault : Utf8.Fault}
    (h : Utf8.decodePieces pieceLength octets = (front, some fault)) : octets ≠ encoded t := by
  rintro rfl
  rw [decodePieces_encoded (by decide)] at h
  cases h

lemma dataOf_of_frontFault_none {octets : List UInt8} {front : Text} {fault : Utf8.Fault}
    (hdecode : Utf8.decodePieces pieceLength octets = (front, some fault))
    (hread : tools.reader.frontFault? front.uniformNewlines = none) :
    dataOf tools.reader path octets = .error (.unreadable path (.encoding fault)) := by
  simp only [dataOf, hdecode, hread]

lemma dataOf_error {octets : List UInt8} {e : Config.LoadError} (h : dataOf tools.reader path octets = .error e) :
    (∃ message, e = .refused (.notYaml path message)) ∨ (∃ fault, e = .raised fault) ∨
      ∃ front fault, Utf8.decodePieces pieceLength octets = (front, some fault) ∧
        tools.reader.frontFault? front.uniformNewlines = none := by
  have hfound (found : DataFault) (he : found.toLoadError path = e) :
      (∃ message, e = .refused (.notYaml path message)) ∨ ∃ fault, e = .raised fault := by
    cases found with
    | malformed message => exact .inl ⟨message, he.symm⟩
    | raised fault => exact .inr ⟨fault, he.symm⟩
  rcases hdecode : Utf8.decodePieces pieceLength octets with ⟨front, _ | fault⟩
  · simp only [dataOf, hdecode] at h
    cases hread : tools.reader.read front.uniformNewlines with
    | ok data =>
      rw [hread] at h
      cases h
    | error found =>
      rw [hread] at h
      exact (hfound found (Except.error.inj h)).imp_right .inl
  · cases hread : tools.reader.frontFault? front.uniformNewlines with
    | none => exact .inr (.inr ⟨front, fault, rfl, hread⟩)
    | some found =>
      simp only [dataOf, hdecode, hread] at h
      exact (hfound found (Except.error.inj h)).imp_right .inl

lemma load_of_octets {octets : List UInt8} (h : fs.octets path = .ok octets) :
    Config.load tools fs path = (dataOf tools.reader path octets).bind (ofData tools.validator fs path.parent) := by
  simp only [Config.load, h]

lemma load_of_error_octets {fault : FileFault} (h : fs.octets path = .error fault) (hthere : fault ≠ .notFound) :
    Config.load tools fs path = .error (.unreadable path (.file fault)) := by
  simp only [Config.load, h]

variable (hvalidates : Validates tools.validator schema)
include hvalidates

lemma of_load_eq_ok {config : Config} (h : Config.load tools fs path = .ok config) :
    (∀ suite ∈ config.suites, fs.isDir suite.path = true) ∧ isRuntimeName config.runtime.dropFinalNewline = true := by
  unfold Config.load at h
  split at h
  · cases h
  · cases h
  · rename_i octets hoctets
    cases hdata : dataOf tools.reader path octets with
    | error e =>
      rw [hdata] at h
      cases h
    | ok data =>
      rw [hdata, Except.bind] at h
      obtain ⟨version, runtime, env, suites, hform⟩ := exists_isConfigData hvalidates h
      rw [ofData_of_isConfigData hvalidates hform] at h
      obtain ⟨hdirs, rfl⟩ := located_eq_ok h
      exact ⟨List.forall_mem_map.mpr hdirs, hform.isRuntimeName⟩

lemma Obstacle.not_answered (h : Obstacle tools fs path) : ¬ IsAnswered (Config.load tools fs path) := by
  cases h with
  | file h hthere =>
    rw [load_of_error_octets h hthere]
    exact not_isAnswered nofun
  | encoding h _ hdecode hread =>
    rw [load_of_octets h, dataOf_of_frontFault_none hdecode hread]
    exact not_isAnswered nofun
  | reader h hdata =>
    rw [load_of_octets h, hdata]
    exact not_isAnswered nofun
  | validator h hdata hcheck =>
    rw [load_of_octets h, hdata, Except.bind, ofData_of_validator_error hcheck]
    exact not_isAnswered nofun
  | directory h hdata hform hsuite hlost =>
    rw [load_of_octets h, hdata, Except.bind, isAnswered_ofData_of_isConfigData hvalidates hform]
    intro hall
    exact hlost (hall _ hsuite)

end Files

/-- A file at which nothing stands in the way gives a configuration or a reason, and no other does. -/
theorem load_answers_iff {tools : Tools} (hvalidates : Validates tools.validator schema) (fs : FileSystem)
    (path : Path) : IsAnswered (Config.load tools fs path) ↔ ¬ Obstacle tools fs path := by
  refine ⟨fun h hobstacle => hobstacle.not_answered hvalidates h, fun hno => ?_⟩
  cases hoctets : fs.octets path with
  | error fault =>
    by_cases hthere : fault = .notFound
    · rw [Config.load, hoctets, hthere]
      exact .inr ⟨.fileNotFound path, nofun, rfl⟩
    · exact absurd (.file hoctets hthere) hno
  | ok octets =>
    rw [load_of_octets hoctets]
    cases hdata : dataOf tools.reader path octets with
    | error e =>
      rcases dataOf_error hdata with ⟨message, rfl⟩ | ⟨fault, rfl⟩ | ⟨front, fault, hdecode, hread⟩
      · exact .inr ⟨.notYaml path message, nofun, rfl⟩
      · exact absurd (.reader hoctets hdata) hno
      · exact absurd (.encoding hoctets (fun t => decodePieces_eq_none hdecode) hdecode hread) hno
    | ok data =>
      rw [Except.bind, isAnswered_ofData_iff hvalidates]
      constructor
      · cases hcheck : tools.validator schema data with
        | ok found => exact ⟨found, rfl⟩
        | error fault => exact absurd (.validator hoctets hdata hcheck) hno
      · intro version runtime env suites hform suite hsuite
        by_contra hlost
        exact hno (.directory hoctets hdata hform hsuite hlost)

/-- An octet with which no character starts is in the way. -/
theorem load_answers_lone_octet :
    let path : Path := ⟨[], ["conf".toList]⟩
    let fs : FileSystem := ⟨.dir [("conf".toList, .file [0xFF])], []⟩
    Validates CommandLine.tools.validator schema ∧ ¬ IsAnswered (Config.load CommandLine.tools fs path) := by
  intro path fs
  have hvalidates : Validates CommandLine.tools.validator schema := validates_schemaViolations schema
  have hdecode : Utf8.decodePieces pieceLength [0xFF] = ([], some ⟨.startByte, 0xFF, 0, 0⟩) := by decide
  have hobstacle : Obstacle CommandLine.tools fs path :=
    .encoding rfl (fun t => decodePieces_eq_none hdecode) hdecode (by decide)
  exact ⟨hvalidates, fun hanswered => (load_answers_iff hvalidates fs path).mp hanswered hobstacle⟩

/-- For a directory there is neither. -/
theorem load_directory :
    let path : Path := ⟨[], ["conf".toList]⟩
    let fs : FileSystem := ⟨.dir [("conf".toList, .dir [])], []⟩
    path.hasNul = false ∧ ¬ IsAnswered (Config.load CommandLine.tools fs path) := by
  intro path fs
  have hload : Config.load CommandLine.tools fs path = .error (.unreadable path (.file .isDirectory)) :=
    load_of_error_octets rfl nofun
  refine ⟨by decide, ?_⟩
  rw [hload]
  exact not_isAnswered nofun

end SuiteRunner.Proofs
