import Mathlib.Data.List.Infix
import SuiteRunner.Proofs.Discovery
import SuiteRunner.Proofs.SettledLines
import SuiteRunner.Run.Session

/-!
# Names of suites

The suite in a file that one finder yields has the name of the file, from which not only the extension at its end is
taken off but the same text wherever it stands. The main statement tells which files of a directory can therefore share
a name, and when the full name of a test tells the file.
-/

namespace SuiteRunner.Proofs
open TestFile

/-- The name of a test file without the extension at its end. -/
def stem (file : Path) : Text :=
  file.name.take (file.name.length - testExtension.length)

/-- A file of the directory with something in front of the extension, and not the directory file. -/
structure IsNamedFile (directory file : Path) : Prop where
  eq_child : file = directory.child (stem file ++ testExtension)
  stem_ne_nil : stem file ≠ []
  name_ne : file.name ≠ directoryFile

/-- The file has the test. -/
def HasTest (fs : FileSystem) (file : Path) (test : TestCase) : Prop :=
  ∃ suite, load fs file = .ok suite ∧ test ∈ suite.tests

/-- Neither the extension of test files nor a colon stands in the text. -/
def IsPlain (t : Text) : Prop :=
  ¬ testExtension <:+: t ∧ ':' ∉ t

/-- The suite of the second test has a longer name, and what comes behind that of the first one, from a colon on, is
in the name of the first test. -/
inductive IsCutEarlier (first second : TestCase) : Prop
  | colon (hsuite : second.suite = first.suite ++ [':']) (hname : first.name = ':' :: second.name)
  | colons {between : Text} (hsuite : second.suite = first.suite ++ "::".toList ++ between)
    (hname : first.name = between ++ "::".toList ++ second.name)

section Extensions

variable {t : Text}

lemma dropExtensions_replaces : Replaces dropExtensions testExtension [] := by
  refine ⟨rfl, fun t => ?_, fun c t h => ?_⟩
  · rw [testExtension]
    simp only [String.reduceToList, List.cons_append, List.nil_append]
    rw [dropExtensions]
  · rw [dropExtensions]
    rintro rest rfl rfl
    exact h ⟨rest, rfl⟩

lemma dropExtensions_eq_self_iff : dropExtensions t = t ↔ ¬ testExtension <:+: t := by
  refine ⟨fun h hin => ?_, dropExtensions_replaces.eq_self⟩
  have hlt := dropExtensions_replaces.length_lt (by decide) hin
  rw [h] at hlt
  exact hlt.false

lemma prefix_append_testExtension (h : testExtension <+: t ++ testExtension) : t = [] ∨ testExtension <+: t := by
  rcases t with _ | ⟨a, _ | ⟨b, _ | ⟨c, _ | ⟨d, t⟩⟩⟩⟩
  · exact .inl rfl
  · simp [testExtension, List.cons_prefix_cons] at h
  · simp [testExtension, List.cons_prefix_cons] at h
  · simp [testExtension, List.cons_prefix_cons] at h
  · right
    simpa [testExtension, List.cons_prefix_cons] using h

lemma dropExtensions_append (t : Text) : dropExtensions (t ++ testExtension) = dropExtensions t := by
  -- on the length: an occurrence of the extension takes four characters off at once
  induction hn : t.length using Nat.strong_induction_on generalizing t with
  | _ n ih =>
    by_cases hp : testExtension <+: t
    · obtain ⟨u, rfl⟩ := hp
      have hshort : u.length < n := by
        rw [← hn, List.length_append]
        exact Nat.lt_add_of_pos_left (by decide)
      rw [List.append_assoc, dropExtensions_replaces.found, dropExtensions_replaces.found, ih _ hshort u rfl]
    · cases t with
      | nil => decide
      | cons c u =>
        have hnot : ¬ testExtension <+: c :: (u ++ testExtension) := fun h =>
          (prefix_append_testExtension h).elim (List.cons_ne_nil c u) hp
        rw [List.cons_append, dropExtensions_replaces.passed c _ hnot, dropExtensions_replaces.passed c u hp,
          ih _ (by simp [← hn]) u rfl]

end Extensions

section Files

variable {fs : FileSystem} {directory file : Path} {files : List Path}

lemma stem_child (directory : Path) (t : Text) : stem (directory.child (t ++ testExtension)) = t := by
  simp [stem, Path.name, Path.child]

lemma isNamedFile_of_search (h : fs.search .inDirectory directory = .ok files) (hfile : file ∈ files)
    (hname : file.name ≠ directoryFile) : IsNamedFile directory file := by
  cases hentries : fs.entries directory with
  | error fault => simp [FileSystem.search, hentries] at h
  | ok entries =>
    cases hfault : fs.firstPathFault? (testEntries directory entries) with
    | some fault =>
      unfold testEntries at hfault
      simp [FileSystem.search, hentries, hfault] at h
    | none =>
      unfold testEntries at hfault
      simp only [FileSystem.search, hentries, hfault, Except.ok.injEq] at h
      rw [← h, sortPaths, List.mem_mergeSort] at hfile
      obtain ⟨entry, hentry, rfl⟩ := List.mem_map.mp (List.mem_of_mem_filter hfile)
      obtain ⟨t, hne, htext⟩ := hasExtension_iff.mp (List.mem_filter.mp hentry).2
      rw [htext] at hname ⊢
      exact ⟨by rw [stem_child], by rwa [stem_child], hname⟩

lemma IsNamedFile.suiteName_eq (h : IsNamedFile directory file) : suiteName file = dropExtensions (stem file) := by
  have htext : file.name = stem file ++ testExtension := by
    rw [h.eq_child, stem_child]
    simp [Path.name, Path.child]
  rw [suiteName, if_neg h.name_ne, htext, dropExtensions_append]

lemma IsNamedFile.suiteName_eq_stem_iff (h : IsNamedFile directory file) :
    suiteName file = stem file ↔ ¬ testExtension <:+: stem file := by
  rw [h.suiteName_eq, dropExtensions_eq_self_iff]

lemma IsNamedFile.eq_of_suiteName_eq {other : Path} (h : IsNamedFile directory file) (h' : IsNamedFile directory other)
    (hfree : ¬ testExtension <:+: stem file) (hfree' : ¬ testExtension <:+: stem other)
    (hsuite : suiteName file = suiteName other) : file = other := by
  rw [h.suiteName_eq_stem_iff.mpr hfree, h'.suiteName_eq_stem_iff.mpr hfree'] at hsuite
  rw [h.eq_child, h'.eq_child, hsuite]

lemma IsNamedFile.colon_not_mem (h : IsNamedFile directory file) (hplain : IsPlain (stem file)) :
    ':' ∉ suiteName file := by
  rw [h.suiteName_eq_stem_iff.mpr hplain.1]
  exact hplain.2

end Files

section Tests

variable {fs : FileSystem} {file : Path} {test first second : TestCase}

lemma suite_of_readBlocks {suite file : Text} {number : Nat} {found : List Block} {tests : List TestCase}
    (h : readBlocks suite file number found = .ok tests) : ∀ test ∈ tests, test.suite = suite := by
  induction found generalizing number tests with
  | nil =>
    cases h
    exact List.forall_mem_nil _
  | cons block found ih =>
    rw [readBlocks] at h
    cases hbody : readBody file block.1.trim (number + 1) block.2 with
    | error e => simp [hbody] at h
    | ok statements =>
      cases hrest : readBlocks suite file (number + 1 + block.2.length) found with
      | error e => simp [hbody, hrest, Except.map] at h
      | ok others =>
        simp only [hbody, hrest, Except.map, Except.ok.injEq] at h
        rw [← h, List.forall_mem_cons]
        exact ⟨rfl, ih hrest⟩

lemma HasTest.suite_eq (h : HasTest fs file test) : test.suite = suiteName file := by
  obtain ⟨suite, hload, htest⟩ := h
  unfold load at hload
  cases hread : fs.readText file with
  | error fault => simp [hread] at hload
  | ok t =>
    cases hparse : parse (suiteName file) (some file.text) t with
    | error e => simp [hread, hparse] at hload
    | ok tests =>
      simp only [hread, hparse, Except.ok.injEq] at hload
      subst hload
      rw [parse, readLines] at hparse
      split at hparse
      · cases hparse
      · exact suite_of_readBlocks hparse test htest

lemma same_or_isCutEarlier {between : Text} (hsuite : second.suite = first.suite ++ between)
    (hname : "::".toList ++ first.name = between ++ ("::".toList ++ second.name)) :
    (first.suite = second.suite ∧ first.name = second.name) ∨ IsCutEarlier first second := by
  rcases between with _ | ⟨c, _ | ⟨d, between⟩⟩
  · have hsame : second.suite = first.suite := by simpa using hsuite
    exact .inl ⟨hsame.symm, by simpa using hname⟩
  · obtain ⟨rfl, hcolon⟩ : ':' = c ∧ first.name = ':' :: second.name := by simpa using hname
    exact .inr (.colon hsuite hcolon)
  · obtain ⟨rfl, rfl, hcolons⟩ : ':' = c ∧ ':' = d ∧ first.name = between ++ "::".toList ++ second.name := by
      simpa using hname
    exact .inr (.colons (by simpa using hsuite) hcolons)

lemma IsCutEarlier.fullName_eq (h : IsCutEarlier first second) : first.fullName = second.fullName := by
  rw [TestCase.fullName, TestCase.fullName]
  cases h with
  | colon hsuite hname =>
    rw [hsuite, hname]
    simp
  | colons hsuite hname =>
    rw [hsuite, hname]
    simp

lemma fullName_eq_iff : first.fullName = second.fullName ↔
    (first.suite = second.suite ∧ first.name = second.name) ∨ IsCutEarlier first second ∨
      IsCutEarlier second first := by
  constructor
  · intro h
    rw [TestCase.fullName, TestCase.fullName, List.append_assoc, List.append_assoc, List.append_eq_append_iff] at h
    rcases h with ⟨between, hsuite, hname⟩ | ⟨between, hsuite, hname⟩
    · exact (same_or_isCutEarlier hsuite hname).imp_right .inl
    · exact (same_or_isCutEarlier hsuite hname).imp (fun h => ⟨h.1.symm, h.2.symm⟩) .inr
  · rintro (⟨hsuite, hname⟩ | h | h)
    · rw [TestCase.fullName, TestCase.fullName, hsuite, hname]
    · exact h.fullName_eq
    · exact h.fullName_eq.symm

lemma IsCutEarlier.mem_suite (h : IsCutEarlier first second) : ':' ∈ second.suite := by
  cases h with
  | colon hsuite _ => simp [hsuite]
  | colons hsuite _ => simp [hsuite]

end Tests

lemma HasTest.fullName_eq_iff_of_isPlain {fs : FileSystem} {directory file file' : Path} {test test' : TestCase}
    (htest : HasTest fs file test) (htest' : HasTest fs file' test') (h : IsNamedFile directory file)
    (h' : IsNamedFile directory file') (hplain : IsPlain (stem file)) (hplain' : IsPlain (stem file')) :
    test.fullName = test'.fullName ↔ file = file' ∧ test.name = test'.name := by
  rw [fullName_eq_iff]
  constructor
  · rintro (⟨hsuite, hname⟩ | hcut | hcut)
    · rw [htest.suite_eq, htest'.suite_eq] at hsuite
      exact ⟨h.eq_of_suiteName_eq h' hplain.1 hplain'.1 hsuite, hname⟩
    · exact absurd (htest'.suite_eq ▸ hcut.mem_suite) (h'.colon_not_mem hplain')
    · exact absurd (htest.suite_eq ▸ hcut.mem_suite) (h.colon_not_mem hplain)
  · rintro ⟨rfl, hname⟩
    exact .inl ⟨htest.suite_eq.trans htest'.suite_eq.symm, hname⟩

/-- The name of the suite in a file is that of the file without the extension, and without any other occurrence of it.
Two files of a directory share it only if there is such an occurrence, and the full name of a test tells the file as
far as there is none and no colon either. -/
theorem suite_names {fs : FileSystem} {directory : Path} {files : List Path}
    (h : fs.search .inDirectory directory = .ok files) :
    (∀ file ∈ files, file.name ≠ directoryFile →
        file = directory.child (stem file ++ testExtension) ∧ stem file ≠ [] ∧
          suiteName file = dropExtensions (stem file) ∧
          (suiteName file = stem file ↔ ¬ testExtension <:+: stem file)) ∧
      ∀ first ∈ files, ∀ second ∈ files, first.name ≠ directoryFile → second.name ≠ directoryFile →
        (¬ testExtension <:+: stem first → ¬ testExtension <:+: stem second → suiteName first = suiteName second →
          first = second) ∧
        ∀ test other, HasTest fs first test → HasTest fs second other →
          (test.fullName = other.fullName ↔ (suiteName first = suiteName second ∧ test.name = other.name) ∨
            IsCutEarlier test other ∨ IsCutEarlier other test) ∧
          (IsPlain (stem first) → IsPlain (stem second) →
            (test.fullName = other.fullName ↔ first = second ∧ test.name = other.name) ∧
            (other.isSelected (some test.fullName) = true ↔
              other.name = test.fullName ∨ first = second ∧ test.name = other.name)) := by
  constructor
  · intro file hfile hname
    have hnamed := isNamedFile_of_search h hfile hname
    exact ⟨hnamed.eq_child, hnamed.stem_ne_nil, hnamed.suiteName_eq, hnamed.suiteName_eq_stem_iff⟩
  · intro first hfirst second hsecond hname hname'
    have hnamed := isNamedFile_of_search h hfirst hname
    have hnamed' := isNamedFile_of_search h hsecond hname'
    refine ⟨hnamed.eq_of_suiteName_eq hnamed', fun test other htest hother => ⟨?_, fun hplain hplain' => ?_⟩⟩
    · rw [fullName_eq_iff, htest.suite_eq, hother.suite_eq]
    · have hfull := htest.fullName_eq_iff_of_isPlain hother hnamed hnamed' hplain hplain'
      refine ⟨hfull, ?_⟩
      rw [← hfull, TestCase.isSelected, Bool.or_eq_true, beq_iff_eq, beq_iff_eq, eq_comm]

/-- The two files of a directory have suites of different names. -/
theorem suite_names_two :
    let entries : List (Text × FileTree) := [("b.txt".toList, .file []), ("a.txt".toList, .file [])]
    let fs : FileSystem := ⟨.dir entries, []⟩
    let first : Path := ⟨['/'], ["a.txt".toList]⟩
    let second : Path := ⟨['/'], ["b.txt".toList]⟩
    fs.search .inDirectory ⟨['/'], []⟩ = .ok [first, second] ∧ suiteName first = "a".toList ∧
      suiteName second = "b".toList := by
  intro entries fs first second
  have hfind : fs.find ⟨['/'], []⟩ = .ok (.dir entries) := rfl
  have hsearch : fs.search .inDirectory ⟨['/'], []⟩ = .ok [first, second] :=
    search_inDirectory_pair hfind (by decide) (by decide +kernel) (by decide)
  have hnames := (suite_names hsearch).1
  exact ⟨hsearch, (hnames first (by simp) (by decide)).2.2.2.mpr (by decide),
    (hnames second (by simp) (by decide)).2.2.2.mpr (by decide)⟩

/-- The two files of a directory have one suite and one test. -/
theorem suite_names_shared :
    let octets := encoded "Sums\n".toList
    let entries : List (Text × FileTree) := [("a.txt.txt".toList, .file octets), ("a.txt".toList, .file octets)]
    let fs : FileSystem := ⟨.dir entries, []⟩
    let first : Path := ⟨['/'], ["a.txt".toList]⟩
    let second : Path := ⟨['/'], ["a.txt.txt".toList]⟩
    fs.search .inDirectory ⟨['/'], []⟩ = .ok [first, second] ∧ first.name ≠ directoryFile ∧
      second.name ≠ directoryFile ∧ stem second = "a.txt".toList ∧ suiteName second = "a".toList ∧
      suiteName first = suiteName second ∧ ∃ test, HasTest fs first test ∧ HasTest fs second test := by
  intro octets entries fs first second
  have hfind : fs.find ⟨['/'], []⟩ = .ok (.dir entries) := rfl
  have hsearch : fs.search .inDirectory ⟨['/'], []⟩ = .ok [first, second] :=
    search_inDirectory_pair hfind (by decide) (by decide +kernel) (by decide)
  let test := TestCase.ofStatements "a".toList "Sums".toList []
  have hfirst : load fs first = .ok ⟨"a".toList, [test], first.text⟩ := by decide +kernel
  have hsecond : load fs second = .ok ⟨"a".toList, [test], second.text⟩ := by decide +kernel
  exact ⟨hsearch, by decide, by decide, by decide, by decide, by decide, test,
    ⟨_, hfirst, List.mem_cons_self⟩, ⟨_, hsecond, List.mem_cons_self⟩⟩

end SuiteRunner.Proofs
