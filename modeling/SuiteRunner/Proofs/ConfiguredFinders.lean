import SuiteRunner.Proofs.AcceptedConfigs
import SuiteRunner.Proofs.Discovery

/-!
# The finders of a configuration

What the schema demands of the data is also demanded, in other words, where the configuration is used. The main
statement is that a configuration that comes of data meets these demands: its finders are there, they can be run
through, again and again, as far as the system admits the paths, and its runtime names a member of a module.
-/

universe u

namespace SuiteRunner.Proofs
open Config

/-- The finder is the one that the item names, and it looks at the directory that the item names. -/
def IsFinderOf (fs : FileSystem) (base : Path) (item : Data) (suite : SuiteSpec) : Prop :=
  ∃ kind directory, HasText item "finder".toList kind ∧ HasText item "path".toList directory ∧
    Finder.ofName? kind = some suite.finder ∧ suite.path = fs.resolve (base.join (Path.ofText directory))

section Finders

variable {fs : FileSystem} {base : Path} {data : Data} {config : Config} {suite : SuiteSpec}

lemma ofName?_name (finder : Finder) : Finder.ofName? finder.name = some finder := by
  cases finder <;> decide

lemma forall₂_isFinderOf {items : List Data} {described : List (Finder × Text)} {suites : List SuiteSpec}
    (hitems : List.Forall₂ (fun item suite => IsSuiteData item suite.1 suite.2) items described)
    (hlocated : List.Forall₂ (IsLocated fs base) described suites) :
    List.Forall₂ (IsFinderOf fs base) items suites := by
  induction hitems generalizing suites with
  | nil =>
    cases hlocated
    exact .nil
  | @cons item described _ _ hitem _ ih =>
    obtain _ | ⟨hfirst, hrest⟩ := hlocated
    refine .cons ⟨described.1.name, described.2, hitem.hasFinder, hitem.hasDirectory, ?_, hfirst.path⟩ (ih hrest)
    rw [ofName?_name, hfirst.finder]

lemma isDir_of_isConfigOf (h : IsConfigOf fs base data config) (hsuite : suite ∈ config.suites) :
    fs.isDir suite.path = true := by
  obtain ⟨suites, -, hlocated⟩ := h
  rw [forall₂_isLocated_iff] at hlocated
  obtain ⟨hfound, hall⟩ := hlocated
  rw [hfound] at hsuite
  obtain ⟨given, hgiven, rfl⟩ := List.mem_map.mp hsuite
  exact (hall given hgiven).2

lemma exists_search_iff {entries : List (Text × FileTree)} (hproper : IsProper fs.root)
    (hfind : fs.find suite.path = .ok (.dir entries)) :
    (∃ files, fs.search suite.finder suite.path = .ok files) ↔ (suite.finder = .inDirectory →
      ∀ name ∈ entries.map Prod.fst, HasSuffix name testExtension → (suite.path.child name).isTooLong = false) := by
  obtain ⟨h, hlong⟩ := find_eq_ok_iff.mp hfind
  cases hfinder : suite.finder with
  | inDirectory => simp [exists_search_inDirectory_iff h hproper, hlong]
  | below => exact ⟨nofun, fun _ => ⟨_, search_below_eq h⟩⟩

end Finders

/-- A configuration that comes of data, with a validator that is right about the schema, has the finders that the data
name, in their order. The directory of each is there, and the finder yields files unless it looks into the directory
only and an entry with the extension has a path that is too long; what it yields does not depend on the order in which
directories are listed. The runtime is cut at its only colon into two names, and it is not refused for its form. -/
theorem configured_finders {validator : Validator} (hvalidates : Validates validator schema) {fs : FileSystem}
    {base : Path} {data : Data} {config : Config} (h : ofData validator fs base data = .ok config)
    (hproper : IsProper fs.root) :
    (∃ items, data.field? "suites".toList = some (.list items) ∧
        List.Forall₂ (IsFinderOf fs base) items config.suites) ∧
      (∀ suite ∈ config.suites, ∃ entries, fs.find suite.path = .ok (.dir entries) ∧
        ((∃ files, fs.search suite.finder suite.path = .ok files) ↔ (suite.finder = .inDirectory →
          ∀ name ∈ entries.map Prod.fst, HasSuffix name testExtension → (suite.path.child name).isTooLong = false)) ∧
        ∀ fs', IsRelisting fs fs' → ∀ files, fs.search suite.finder suite.path = .ok files ↔
          fs'.search suite.finder suite.path = .ok files) ∧
      (∃ moduleName member, config.runtime = moduleName ++ ':' :: member ∧
        config.runtime.cutAt ':' = (moduleName, member) ∧ moduleName ≠ [] ∧ ':' ∉ moduleName ∧ member ≠ [] ∧
          ':' ∉ member) ∧
      ∀ (φ : Type u) (catalogue : Catalogue φ) (dotted : Text),
        catalogue.resolve config.runtime ≠ .error (.malformed dotted) := by
  obtain ⟨suites, hdescribes, hlocated⟩ := (ofData_eq_ok_iff hvalidates).mp h
  refine ⟨?_, fun suite hsuite => ?_, ?_, fun φ catalogue dotted herror => ?_⟩
  · obtain ⟨listed, hlisted, items, rfl, -, hitems⟩ := hdescribes.suites
    exact ⟨items, hlisted, forall₂_isFinderOf hitems hlocated⟩
  · obtain ⟨entries, hfind⟩ := isDir_eq_true_iff.mp (isDir_of_isConfigOf ⟨suites, hdescribes, hlocated⟩ hsuite)
    refine ⟨entries, hfind, exists_search_iff hproper hfind, fun fs' hrelisting files => ?_⟩
    exact search_relisted_iff (find_eq_ok_iff.mp hfind).1 hproper hrelisting
  · obtain ⟨moduleName, member, hruntime, hcut, hmodule, hmember, hcolon⟩ := hdescribes.isRuntime.cut
    exact ⟨moduleName, member, hruntime, hcut, hmodule.ne_nil, hmodule.not_mem.1, hmember, hcolon⟩
  · exact (hdescribes.isRuntime.resolve_error herror).1 dotted rfl

/-- The same directory with either finder. -/
theorem configured_finders_twice :
    let item (finder : Finder) := Data.map [(.text "finder".toList, .scalar (.text finder.name)),
      (.text "path".toList, .scalar (.text "sums".toList))]
    let data := Data.map [(.text "version".toList, .scalar (.text "1.0".toList)),
      (.text "runtime".toList, .scalar (.text "fakes:make_runtime".toList)),
      (.text "suites".toList, .list [item .below, item .inDirectory])]
    let fs : FileSystem := ⟨.dir [("sums".toList, .dir [("a.txt".toList, .file [])])], []⟩
    let directory : Path := ⟨['/'], ["sums".toList]⟩
    let config : Config :=
      ⟨"1.0".toList, "fakes:make_runtime".toList, {}, [⟨.below, directory⟩, ⟨.inDirectory, directory⟩]⟩
    let validator := CommandLine.tools.validator
    Validates validator schema ∧ ofData validator fs ⟨['/'], []⟩ data = .ok config ∧ IsProper fs.root ∧
      List.Forall₂ (IsFinderOf fs ⟨['/'], []⟩) [item .below, item .inDirectory] config.suites ∧
      ∀ (catalogue : Catalogue Unit) (dotted : Text),
        catalogue.resolve "fakes:make_runtime".toList ≠ .error (.malformed dotted) := by
  intro item data fs directory config validator
  have hvalidates : Validates validator schema := validates_schemaViolations schema
  have hproper : IsProper fs.root := by
    simp only [fs, isProper_dir_iff, List.forall_mem_cons, List.not_mem_nil, isProper_file, false_implies,
      implies_true, and_true]
    decide
  have hload : ofData validator fs ⟨['/'], []⟩ data = .ok config := by decide +kernel
  obtain ⟨⟨items, hitems, hfinders⟩, -, -, hresolve⟩ := configured_finders hvalidates hload hproper
  cases hitems
  exact ⟨hvalidates, hload, hproper, hfinders, hresolve Unit⟩

/-- The configuration looks at a directory whose path is not too long, but the path of the file in it is. -/
theorem configured_finders_deep_file :
    let names := List.replicate 15 (List.replicate 255 'd')
    let text := List.replicate 251 'n' ++ ".txt".toList
    let fs : FileSystem := ⟨nested names (.dir [(text, .file [])]), []⟩
    let directory : Path := ⟨['/'], names⟩
    IsProper fs.root ∧
      ofData CommandLine.tools.validator fs directory (withOneSuite .inDirectory ['.']) =
        .ok ⟨"1.0".toList, "fakes:make_runtime".toList, {}, [⟨.inDirectory, directory⟩]⟩ ∧
      ∀ files, fs.search .inDirectory directory ≠ .ok files := by
  intro names text fs directory
  have hentries : IsProper (.dir [(text, .file [])]) := by
    simp only [isProper_dir_iff, List.forall_mem_cons, List.not_mem_nil, isProper_file, false_implies, implies_true,
      and_true]
    decide +kernel
  have hproper : IsProper fs.root := isProper_nested (by decide +kernel) hentries
  have hfault : fs.search .inDirectory directory = .error (directory.child text, .tooLong) := by decide +kernel
  refine ⟨hproper, by decide +kernel, fun files hfiles => ?_⟩
  rw [hfault] at hfiles
  cases hfiles

end SuiteRunner.Proofs
