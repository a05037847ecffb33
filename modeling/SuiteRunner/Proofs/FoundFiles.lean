import SuiteRunner.Proofs.ConfigLoading
import SuiteRunner.Proofs.Fallible

/-!
# Files that the finders find

The directories of a configuration are searched exactly if the system looks at every path that the finders come
upon.
-/

namespace SuiteRunner.Proofs

/-- The finder comes upon the path: an entry of the directory with the extension of test files, or a directory file
in a directory below it whose own path is not too long. -/
inductive IsExamined (fs : FileSystem) : SuiteSpec → Path → Prop
  | entry {directory : Path} {entries : List (Text × FileTree)} {entry : Text × FileTree}
    (h : fs.find directory = .ok (.dir entries)) (hentry : entry ∈ entries)
    (hname : Path.hasExtension testExtension entry.1 = true) :
    IsExamined fs ⟨.inDirectory, directory⟩ (directory.child entry.1)
  | below {directory : Path} {tree : FileTree} {parts : List Text} (h : fs.find directory = .ok tree)
    (hfile : parts ∈ tree.directoryFiles [])
    (hparent : ({ directory with parts := directory.parts ++ parts } : Path).parent.isTooLong = false) :
    IsExamined fs ⟨.below, directory⟩ { directory with parts := directory.parts ++ parts }

/-- The suite has these test files, and the system looks at each of them. -/
def FindsIn (fs : FileSystem) (suite : SuiteSpec) (files : List Path) : Prop :=
  fs.search suite.finder suite.path = .ok files ∧ ∀ file ∈ files, IsAdmitted fs file

/-- The configuration has these test files, one suite after the other. -/
def Finds (fs : FileSystem) (config : Config) (files : List Path) : Prop :=
  ∃ parts, List.Forall₂ (FindsIn fs) config.suites parts ∧ files = parts.flatten

/-- The entries of the directory that are named like test files. -/
def testEntries (directory : Path) (entries : List (Text × FileTree)) : List Path :=
  (entries.filter fun entry => Path.hasExtension testExtension entry.1).map fun entry => directory.child entry.1

/-- The directory files in the tree at the directory that a walk through it comes upon. -/
def directoryFilesBelow (directory : Path) (tree : FileTree) : List Path :=
  ((tree.directoryFiles []).map fun parts => { directory with parts := directory.parts ++ parts }).filter
    (! ·.parent.isTooLong)

section Searching

variable {fs : FileSystem} {directory path : Path}

lemma mem_testEntries_iff {entries : List (Text × FileTree)} (h : fs.find directory = .ok (.dir entries)) :
    path ∈ testEntries directory entries ↔ IsExamined fs ⟨.inDirectory, directory⟩ path := by
  simp only [testEntries, List.mem_map, List.mem_filter]
  constructor
  · rintro ⟨entry, ⟨hentry, hname⟩, rfl⟩
    exact .entry h hentry hname
  · intro hexamined
    cases hexamined with
    | entry h' hentry hname =>
      rw [h] at h'
      cases h'
      exact ⟨_, ⟨hentry, hname⟩, rfl⟩

lemma mem_directoryFilesBelow_iff {tree : FileTree} (h : fs.find directory = .ok tree) :
    path ∈ directoryFilesBelow directory tree ↔ IsExamined fs ⟨.below, directory⟩ path := by
  simp only [directoryFilesBelow, List.mem_filter, List.mem_map, Bool.not_eq_true']
  constructor
  · rintro ⟨⟨parts, hfile, rfl⟩, hparent⟩
    exact .below h hfile hparent
  · intro hexamined
    cases hexamined with
    | below h' hfile hparent =>
      rw [h] at h'
      cases h'
      exact ⟨⟨_, hfile, rfl⟩, hparent⟩

lemma search_inDirectory_of_fault {entries : List (Text × FileTree)} (h : fs.find directory = .ok (.dir entries))
    {fault : Path × FileFault} (hfault : fs.firstPathFault? (testEntries directory entries) = some fault) :
    fs.search .inDirectory directory = .error fault := by
  unfold testEntries at hfault
  simp only [FileSystem.search, FileSystem.entries, h, hfault]

lemma search_inDirectory {entries : List (Text × FileTree)} (h : fs.find directory = .ok (.dir entries))
    (hnone : fs.firstPathFault? (testEntries directory entries) = none) :
    fs.search .inDirectory directory = .ok (sortPaths ((testEntries directory entries).filter fs.isFile)) := by
  unfold testEntries at *
  simp only [FileSystem.search, FileSystem.entries, h, hnone]

lemma search_below {tree : FileTree} (h : fs.find directory = .ok tree) :
    fs.search .below directory = .ok (sortPaths (directoryFilesBelow directory tree)) := by
  simp only [FileSystem.search, h, directoryFilesBelow]

lemma exists_findsIn_iff {suite : SuiteSpec} (hdir : fs.isDir suite.path = true) :
    (∃ files, FindsIn fs suite files) ↔ ∀ path, IsExamined fs suite path → IsAdmitted fs path := by
  obtain ⟨finder, directory⟩ := suite
  obtain ⟨entries, h⟩ := isDir_eq_true_iff.mp hdir
  cases finder with
  | inDirectory =>
    simp only [← mem_testEntries_iff h]
    constructor
    · rintro ⟨files, hsearch, -⟩
      apply firstPathFault?_eq_none_iff.mp
      by_contra hfault
      obtain ⟨fault, hsome⟩ := Option.ne_none_iff_exists'.mp hfault
      rw [search_inDirectory_of_fault h hsome] at hsearch
      cases hsearch
    · intro hadmitted
      refine ⟨_, search_inDirectory h (firstPathFault?_eq_none_iff.mpr hadmitted), fun file hfile => ?_⟩
      exact hadmitted file (List.mem_of_mem_filter (List.mem_mergeSort.mp hfile))
  | below =>
    simp only [FindsIn, ← mem_directoryFilesBelow_iff h, search_below h]
    constructor
    · rintro ⟨files, hfiles, hadmitted⟩ path hpath
      cases hfiles
      exact hadmitted path (List.mem_mergeSort.mpr hpath)
    · intro hadmitted
      exact ⟨_, rfl, fun file hfile => hadmitted file (List.mem_mergeSort.mp hfile)⟩

/-- The search succeeds exactly if the system looks at every path that is come upon. -/
theorem exists_finds_iff {config : Config} (hdirs : ∀ suite ∈ config.suites, fs.isDir suite.path = true) :
    (∃ files, Finds fs config files) ↔
      ∀ suite ∈ config.suites, ∀ path, IsExamined fs suite path → IsAdmitted fs path := by
  have hparts : (∃ files, Finds fs config files) ↔ ∃ parts, List.Forall₂ (FindsIn fs) config.suites parts := by
    constructor
    · rintro ⟨_, parts, hparts, -⟩
      exact ⟨parts, hparts⟩
    · rintro ⟨parts, hparts⟩
      exact ⟨_, parts, hparts, rfl⟩
  rw [hparts, exists_forall₂_iff]
  exact forall₂_congr fun suite hsuite => exists_findsIn_iff (hdirs suite hsuite)

end Searching

section Loading

variable {fs : FileSystem} {config : Config}

/-- What the files yield that are loaded. -/
def loadedFrom (fs : FileSystem) (files : List Path) : TestFile.Loaded :=
  ⟨files.flatMap fun file => (TestFile.loadPath fs file).suites,
    files.flatMap fun file => (TestFile.loadPath fs file).diagnostics⟩

lemma loadAll_eq_ok_iff {files : List Path} {loaded : TestFile.Loaded} :
    TestFile.loadAll fs [] files = .ok loaded ↔
      (∀ file ∈ files, IsAdmitted fs file) ∧ loaded = loadedFrom fs files := by
  rw [← firstPathFault?_eq_none_iff]
  unfold TestFile.loadAll
  cases fs.firstPathFault? files with
  | some fault => simp
  | none => simp [loadedFrom, eq_comm]

lemma forall₂_findsIn_iff {suites : List SuiteSpec} {parts : List (List Path)} :
    List.Forall₂ (FindsIn fs) suites parts ↔
      List.Forall₂ (fun suite part => fs.search suite.finder suite.path = .ok part) suites parts ∧
        ∀ file ∈ parts.flatten, IsAdmitted fs file := by
  constructor
  · intro h
    induction h with
    | nil => exact ⟨.nil, nofun⟩
    | cons hfirst _ ih => exact ⟨.cons hfirst.1 ih.1, List.forall_mem_append.mpr ⟨hfirst.2, ih.2⟩⟩
  · rintro ⟨hsearch, hadmitted⟩
    induction hsearch with
    | nil => exact .nil
    | cons hfirst _ ih =>
      rw [List.flatten_cons, List.forall_mem_append] at hadmitted
      exact .cons ⟨hfirst, hadmitted.1⟩ (ih hadmitted.2)

lemma loadAll_testFiles_eq_ok_iff {loaded : TestFile.Loaded} :
    ((config.testFiles fs).bind fun paths => TestFile.loadAll fs [] paths.flatten) = .ok loaded ↔
      ∃ files, Finds fs config files ∧ loaded = loadedFrom fs files := by
  simp only [Finds, forall₂_findsIn_iff, ← mapM_eq_ok_iff]
  unfold Config.testFiles
  cases (config.suites.mapM fun suite => fs.search suite.finder suite.path) with
  | error fault => simp [Except.bind]
  | ok parts =>
    rw [Except.bind, loadAll_eq_ok_iff]
    constructor
    · rintro ⟨hadmitted, rfl⟩
      exact ⟨_, ⟨parts, ⟨rfl, hadmitted⟩, rfl⟩, rfl⟩
    · rintro ⟨_, ⟨_, ⟨hparts, hadmitted⟩, rfl⟩, rfl⟩
      cases hparts
      exact ⟨hadmitted, rfl⟩

end Loading

end SuiteRunner.Proofs
