import SuiteRunner.Proofs.EncodedText
import SuiteRunner.Proofs.Notes
import SuiteRunner.TestFile.Load

/-!
# Files that are loaded

Every path contributes a suite with its remarks, or one error, or nothing if it is a directory, whatever the other
paths are. The main statement also tells which paths keep everything from being loaded: those that the system does
not look at.
-/

namespace SuiteRunner.Proofs
open TestFile

/-- The system looks at the path, be it there or not. -/
def IsAdmitted (fs : FileSystem) (path : Path) : Prop :=
  path.hasNul = false ∧ fs.find path ≠ .error .tooLong

/-- The error with this message at this place. -/
def errorAt (location : Location) (message : Text) : Diagnostic :=
  { severity := .error, message := message, location := some location }

/-- The error of a file that is not read. -/
def unread (path : Path) (why : Text) : Diagnostic :=
  errorAt ⟨path.text, 0, none⟩ ("cannot read test file: ".toList ++ why)

def noTests (path : Path) : Diagnostic :=
  { severity := .warning, message := "no tests found".toList, location := some ⟨path.text, 0, none⟩ }

def noStatements (path : Path) (test : TestCase) : Diagnostic :=
  { severity := .info
    message := "test ".toList ++ test.name ++ " has no statements".toList
    location := some ⟨path.text, 0, some test.name⟩ }

/-- What comes of one path: at most one suite, and what there is to say. -/
inductive Contributes (fs : FileSystem) (path : Path) : List Suite → Diagnostics → Prop where
  | directory {entries : List (Text × FileTree)} (h : fs.find path = .ok (.dir entries)) : Contributes fs path [] []
  | unreadable {fault : FileFault} (h : fs.find path = .error fault) :
    Contributes fs path [] [unread path (fault.message path)]
  | noText {octets : List UInt8} {fault : Utf8.Fault} (h : fs.find path = .ok (.file octets))
    (hnone : ∀ t, octets ≠ encoded t) (hfault : Utf8.decode octets = .error fault) :
    Contributes fs path [] [unread path fault.message]
  | malformed {t : Text} {cause : ParseError.Cause} {location : Location}
    (h : fs.find path = .ok (.file (encoded t)))
    (hparse : parse (suiteName path) (some path.text) t.uniformNewlines = .error ⟨cause, some location⟩) :
    Contributes fs path [] [errorAt location cause.message]
  | suite {t : Text} {tests : List TestCase} (h : fs.find path = .ok (.file (encoded t)))
    (hparse : parse (suiteName path) (some path.text) t.uniformNewlines = .ok tests) :
    Contributes fs path [⟨suiteName path, tests, path.text⟩]
      ((if tests = [] then [noTests path] else []) ++
        (tests.filter (·.statements.isEmpty)).map (noStatements path))

/-- The suites and the diagnostics are those that the paths contribute, in order. -/
structure IsAccount (fs : FileSystem) (paths : List Path) (suites : List Suite) (new : Diagnostics) : Prop where
  parts : ∃ parts : List (List Suite × Diagnostics),
    List.Forall₂ (fun path part => Contributes fs path part.1 part.2) paths parts ∧
      suites = parts.flatMap (·.1) ∧ new = parts.flatMap (·.2)
  loaded : suites = (paths.filter (! fs.isDir ·)).filterMap fun path => (load fs path).toOption
  errors : suites.length + new.count .error = (paths.filter (! fs.isDir ·)).length
  warnings : new.count .warning = (suites.filter (·.tests.isEmpty)).length
  infos : (new.filter (·.severity == .info)).map (fun d => d.location.bind (·.test)) =
    ((suites.flatMap (·.tests)).filter (·.statements.isEmpty)).map fun test => some test.name

section Paths

variable {fs : FileSystem} {path : Path}

lemma walk_ne_nulInPath (above : List FileTree) (tree : FileTree) (parts : List Text) :
    tree.walk above parts ≠ .error .nulInPath := by
  fun_induction FileTree.walk above tree parts <;> first | assumption | exact nofun

lemma find_eq_nulInPath_iff : fs.find path = .error .nulInPath ↔ path.hasNul = true := by
  unfold FileSystem.find
  split_ifs with hnul hlong
  · simp [hnul]
  · simp [hnul]
  · simp [hnul, walk_ne_nulInPath]

lemma pathFault?_eq_some_iff {fault : FileFault} :
    fs.pathFault? path = some fault ↔ fs.find path = .error fault ∧ fault.isOfPath = true := by
  unfold FileSystem.pathFault?
  cases fs.find path with
  | ok tree => simp
  | error found =>
    simp only [Option.ite_none_right_eq_some, Option.some.injEq, Except.error.injEq]
    constructor
    · rintro ⟨hpath, rfl⟩
      exact ⟨rfl, hpath⟩
    · rintro ⟨rfl, hpath⟩
      exact ⟨hpath, rfl⟩

lemma isAdmitted_iff : IsAdmitted fs path ↔ fs.pathFault? path = none := by
  have hnul : path.hasNul = false ↔ fs.find path ≠ .error .nulInPath := by
    rw [Ne, find_eq_nulInPath_iff, Bool.not_eq_true]
  rw [IsAdmitted, hnul, Option.eq_none_iff_forall_ne_some]
  simp only [ne_eq, pathFault?_eq_some_iff]
  constructor
  · rintro ⟨hnul, hlong⟩ fault ⟨hfind, hpath⟩
    cases fault with
    | tooLong => exact hlong hfind
    | nulInPath => exact hnul hfind
    | notFound => cases hpath
    | notDirectory => cases hpath
    | isDirectory => cases hpath
  · intro h
    exact ⟨fun hfind => h _ ⟨hfind, rfl⟩, fun hfind => h _ ⟨hfind, rfl⟩⟩

lemma firstPathFault?_eq_none_iff {paths : List Path} :
    fs.firstPathFault? paths = none ↔ ∀ path ∈ paths, IsAdmitted fs path := by
  simp only [FileSystem.firstPathFault?, List.findSome?_eq_none_iff, Option.map_eq_none_iff, isAdmitted_iff]

lemma isDir_of_error {fault : FileFault} (h : fs.find path = .error fault) : fs.isDir path = false := by
  simp [FileSystem.isDir, h]

lemma isDir_of_file {octets : List UInt8} (h : fs.find path = .ok (.file octets)) : fs.isDir path = false := by
  simp [FileSystem.isDir, h, FileTree.isDir]

lemma isDir_eq_true_iff : fs.isDir path = true ↔ ∃ entries, fs.find path = .ok (.dir entries) := by
  unfold FileSystem.isDir
  cases fs.find path with
  | error fault => simp
  | ok tree => cases tree <;> simp [FileTree.isDir]

end Paths

section OnePath

variable {fs : FileSystem} {path : Path} {suites : List Suite} {new : Diagnostics}

lemma load_of_error {fault : FileFault} (h : fs.find path = .error fault) :
    load fs path = .error (.unreadable (.file fault)) := by
  simp [load, FileSystem.readText, FileSystem.octets, h]

lemma load_of_fault {octets : List UInt8} {fault : Utf8.Fault} (h : fs.find path = .ok (.file octets))
    (hfault : Utf8.decode octets = .error fault) : load fs path = .error (.unreadable (.encoding fault)) := by
  simp [load, FileSystem.readText, FileSystem.octets, h, hfault]

lemma readText_encoded {t : Text} (h : fs.find path = .ok (.file (encoded t))) :
    fs.readText path = .ok t.uniformNewlines := by
  have hdecode : Utf8.decode (encoded t) = .ok t := decode_eq_ok_iff.mpr rfl
  simp [FileSystem.readText, FileSystem.octets, h, hdecode]

lemma load_of_malformed {t : Text} {e : ParseError} (h : fs.find path = .ok (.file (encoded t)))
    (hparse : parse (suiteName path) (some path.text) t.uniformNewlines = .error e) :
    load fs path = .error (.malformed e) := by
  simp [load, readText_encoded h, hparse]

lemma load_of_parse {t : Text} {tests : List TestCase} (h : fs.find path = .ok (.file (encoded t)))
    (hparse : parse (suiteName path) (some path.text) t.uniformNewlines = .ok tests) :
    load fs path = .ok ⟨suiteName path, tests, path.text⟩ := by
  simp [load, readText_encoded h, hparse]

lemma exists_location_of_parse {suite : Text} {file : Option Text} {t : Text} {e : ParseError}
    (h : parse suite file t = .error e) : ∃ location, e = ⟨e.cause, some location⟩ := by
  have hfaults : Faults suite file (logicalLines t) e := faults_of_readLines h
  generalize logicalLines t = lines at hfaults
  cases hfaults with
  | orphan => exact ⟨_, rfl⟩
  | statement => exact ⟨_, rfl⟩

lemma Contributes.loadPath_eq (h : Contributes fs path suites new) : loadPath fs path = ⟨suites, new⟩ := by
  unfold loadPath
  cases h with
  | directory h =>
    rw [if_pos (isDir_eq_true_iff.mpr ⟨_, h⟩)]
  | unreadable h =>
    rw [isDir_of_error h, load_of_error h]
    rfl
  | noText h hnone hfault =>
    rw [isDir_of_file h, load_of_fault h hfault]
    rfl
  | malformed h hparse =>
    rw [isDir_of_file h, load_of_malformed h hparse]
    rfl
  | @suite t tests h hparse =>
    rw [isDir_of_file h, load_of_parse h hparse]
    cases tests with
    | nil => rfl
    | cons test tests => rfl

lemma exists_contributes (fs : FileSystem) (path : Path) : ∃ suites new, Contributes fs path suites new := by
  cases hfind : fs.find path with
  | error fault => exact ⟨_, _, .unreadable hfind⟩
  | ok tree =>
    cases tree with
    | dir entries => exact ⟨_, _, .directory hfind⟩
    | file octets =>
      cases hdecode : Utf8.decode octets with
      | error fault =>
        have hnone (t : Text) : octets ≠ encoded t := by
          intro heq
          rw [decode_eq_ok_iff.mpr heq] at hdecode
          cases hdecode
        exact ⟨_, _, .noText hfind hnone hdecode⟩
      | ok t =>
        rw [decode_eq_ok_iff.mp hdecode] at hfind
        cases hparse : parse (suiteName path) (some path.text) t.uniformNewlines with
        | ok tests => exact ⟨_, _, .suite hfind hparse⟩
        | error e =>
          obtain ⟨location, he⟩ := exists_location_of_parse hparse
          rw [he] at hparse
          exact ⟨_, _, .malformed hfind hparse⟩

theorem contributes_iff : Contributes fs path suites new ↔ loadPath fs path = ⟨suites, new⟩ := by
  refine ⟨Contributes.loadPath_eq, fun h => ?_⟩
  obtain ⟨suites', new', hcontributes⟩ := exists_contributes fs path
  rw [hcontributes.loadPath_eq] at h
  cases h
  exact hcontributes

end OnePath

section Counting

variable {fs : FileSystem} {path : Path} {suites suites' : List Suite} {new new' : Diagnostics}

lemma count_remarks (path : Path) (tests : List TestCase) {severity : Severity} (h : severity ≠ .info) :
    Diagnostics.count ((tests.filter (·.statements.isEmpty)).map (noStatements path)) severity = 0 := by
  rw [Diagnostics.count, List.countP_map, List.countP_eq_zero]
  intro test _
  simpa [noStatements] using h.symm

lemma filter_remarks (tests : List TestCase) :
    ((tests.map (noStatements path)).filter (·.severity == .info)).map (fun d => d.location.bind (·.test)) =
      tests.map fun test => some test.name := by
  rw [List.filter_eq_self.mpr (by simp [noStatements]), List.map_map]
  rfl

lemma exists_parts (h : Contributes fs path suites new) : ∃ parts : List (List Suite × Diagnostics),
    List.Forall₂ (fun path part => Contributes fs path part.1 part.2) [path] parts ∧
      suites = parts.flatMap (·.1) ∧ new = parts.flatMap (·.2) :=
  ⟨[(suites, new)], .cons h .nil, by simp, by simp⟩

lemma isAccount_errorAt {location : Location} {message : Text} (h : Contributes fs path [] [errorAt location message])
    (hdir : fs.isDir path = false) (hload : (load fs path).toOption = none) :
    IsAccount fs [path] [] [errorAt location message] := by
  refine ⟨exists_parts h, ?_, ?_, rfl, rfl⟩
  · simp [hdir, hload]
  · simp [hdir, Diagnostics.count, errorAt]

lemma Contributes.isAccount (h : Contributes fs path suites new) : IsAccount fs [path] suites new := by
  have hparts := exists_parts h
  cases h with
  | directory hfind =>
    have hdir := isDir_eq_true_iff.mpr ⟨_, hfind⟩
    exact ⟨hparts, by simp [hdir], by simp [hdir, Diagnostics.count], rfl, rfl⟩
  | unreadable hfind =>
    apply isAccount_errorAt (.unreadable hfind) (isDir_of_error hfind)
    rw [load_of_error hfind, Except.toOption]
  | noText hfind hnone hfault =>
    apply isAccount_errorAt (.noText hfind hnone hfault) (isDir_of_file hfind)
    rw [load_of_fault hfind hfault, Except.toOption]
  | malformed hfind hparse =>
    apply isAccount_errorAt (.malformed hfind hparse) (isDir_of_file hfind)
    rw [load_of_malformed hfind hparse, Except.toOption]
  | @suite t tests hfind hparse =>
    have hdir := isDir_of_file hfind
    have hload := load_of_parse hfind hparse
    cases tests with
    | nil => exact ⟨hparts, by simp [hdir, hload, Except.toOption], by simp [hdir]; rfl, rfl, rfl⟩
    | cons test tests =>
      rw [if_neg (List.cons_ne_nil _ _), List.nil_append] at hparts ⊢
      refine ⟨hparts, ?_, ?_, ?_, ?_⟩
      · simp [hdir, hload, Except.toOption]
      · rw [count_remarks path (test :: tests) (by decide)]
        simp [hdir]
      · rw [count_remarks path (test :: tests) (by decide)]
        simp
      · rw [filter_remarks, List.flatMap_singleton]

lemma IsAccount.append {first second : List Path} (hfirst : IsAccount fs first suites new)
    (hsecond : IsAccount fs second suites' new') :
    IsAccount fs (first ++ second) (suites ++ suites') (new ++ new') := by
  obtain ⟨⟨parts, hparts, hsuites, hnew⟩, hloaded, herrors, hwarnings, hinfos⟩ := hfirst
  obtain ⟨⟨parts', hparts', hsuites', hnew'⟩, hloaded', herrors', hwarnings', hinfos'⟩ := hsecond
  constructor
  · refine ⟨parts ++ parts', List.rel_append hparts hparts', ?_, ?_⟩
    · rw [List.flatMap_append, hsuites, hsuites']
    · rw [List.flatMap_append, hnew, hnew']
  · rw [List.filter_append, List.filterMap_append, ← hloaded, ← hloaded']
  · simp only [Diagnostics.count, List.countP_append, List.filter_append, List.length_append] at *
    omega
  · simp only [Diagnostics.count, List.countP_append, List.filter_append, List.length_append] at *
    omega
  · simp only [List.filter_append, List.map_append, List.flatMap_append, hinfos, hinfos']

lemma isAccount_nil (fs : FileSystem) : IsAccount fs [] [] [] :=
  ⟨⟨[], .nil, rfl, rfl⟩, rfl, rfl, rfl, rfl⟩

lemma isAccount_loadPath (fs : FileSystem) (paths : List Path) :
    IsAccount fs paths (paths.flatMap fun path => (loadPath fs path).suites)
      (paths.flatMap fun path => (loadPath fs path).diagnostics) := by
  induction paths with
  | nil => exact isAccount_nil fs
  | cons path paths ih =>
    have hpath : Contributes fs path (loadPath fs path).suites (loadPath fs path).diagnostics := contributes_iff.mpr rfl
    rw [List.flatMap_cons, List.flatMap_cons]
    exact hpath.isAccount.append ih

end Counting

/-- Loading succeeds exactly if the system looks at every path. It keeps the earlier diagnostics, and each path adds
what it would add alone: nothing for a directory, an error for a file that is unreadable, no text or malformed, and
else its suite with the remarks on it. -/
theorem loadAll_account (fs : FileSystem) (before : Diagnostics) (paths : List Path) :
    ((∃ loaded, loadAll fs before paths = .ok loaded) ↔ ∀ path ∈ paths, IsAdmitted fs path) ∧
      (∀ loaded, loadAll fs before paths = .ok loaded →
        ∃ new, loaded.diagnostics = before ++ new ∧ IsAccount fs paths loaded.suites new) ∧
      ∀ path suites new, Contributes fs path suites new ↔ loadPath fs path = ⟨suites, new⟩ := by
  rw [← firstPathFault?_eq_none_iff]
  unfold loadAll
  cases fs.firstPathFault? paths with
  | some fault => exact ⟨by simp, nofun, fun _ _ _ => contributes_iff⟩
  | none =>
    refine ⟨by simp, ?_, fun _ _ _ => contributes_iff⟩
    rintro loaded ⟨rfl⟩
    exact ⟨_, rfl, isAccount_loadPath fs paths⟩

/-- The one path is a name that is too long, in an empty directory. -/
theorem loadAll_long_name : ∃ path : Path, path.hasNul = false ∧
    loadAll ⟨.dir [], []⟩ [] [path] = .error (path, .tooLong) :=
  ⟨⟨[], [List.replicate 256 'a']⟩, by decide +kernel, by decide +kernel⟩

end SuiteRunner.Proofs
