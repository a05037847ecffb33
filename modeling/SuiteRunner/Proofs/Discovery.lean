import Mathlib.Data.Char
import Mathlib.Data.List.Lex
import Mathlib.Data.List.Nodup
import SuiteRunner.Proofs.FileTrees
import SuiteRunner.Proofs.FoundFiles

/-!
# What the finders find

A finder yields the files it is there for, in strict order and whatever the order in which directories are listed. The
main statement is exact about paths that are longer than the system admits: they are the only files that one finder
leaves out, and the only ones that keep the other from yielding anything.
-/

namespace SuiteRunner.Proofs

/-- The path leads to the tree, be it as long as it may. -/
structure LeadsTo (fs : FileSystem) (path : Path) (tree : FileTree) : Prop where
  free : path.hasNul = false
  walk : fs.root.walk [] (fs.absoluteParts path) = .ok tree

/-- The suffix of a name starts with its last dot, which is neither its first nor its last character. -/
def HasSuffix (name suffix : Text) : Prop :=
  ∃ stem extension, name = stem ++ suffix ∧ suffix = '.' :: extension ∧ stem ≠ [] ∧ extension ≠ [] ∧ '.' ∉ extension

/-- The files that a finder is there for: those with the extension of test files in the directory itself, or those with
the name of directory files in it or anywhere below it. -/
inductive IsSought (directory : Path) (tree : FileTree) : Finder → Path → Prop
  | text {name : Text} {octets : List UInt8} (hfile : Holds tree [name] (.file octets))
    (hname : HasSuffix name testExtension) : IsSought directory tree .inDirectory (directory.child name)
  | directoryFile {parts : List Text} {octets : List UInt8}
    (hfile : Holds tree (parts ++ [directoryFile]) (.file octets)) :
    IsSought directory tree .below { directory with parts := directory.parts ++ (parts ++ [directoryFile]) }

/-- The paths with the property, each once, and ordered part by part. -/
structure IsListing (files : List Path) (p : Path → Prop) : Prop where
  mem_iff : ∀ path, path ∈ files ↔ p path
  nodup : files.Nodup
  increasing : files.Pairwise fun first second => first.parts < second.parts

/-- The two hold the same files, up to the order in which directories list their entries. -/
structure IsRelisting (fs fs' : FileSystem) : Prop where
  root : Relists fs.root fs'.root
  workingDirectory : fs'.workingDirectory = fs.workingDirectory

section Lengths

variable {path : Path}

lemma octetCount_append (s t : Text) : Text.octetCount (s ++ t) = s.octetCount + t.octetCount := by
  have hfrom (n : Nat) (t : Text) : t.foldl (fun octets c => octets + c.utf8Size) n = n + t.octetCount := by
    induction t generalizing n with
    | nil => rfl
    | cons c t ih =>
      rw [Text.octetCount, List.foldl_cons, List.foldl_cons, ih, ih]
      omega
  rw [Text.octetCount, List.foldl_append, hfrom]
  rfl

lemma intercalate_prefix_append {α : Type} (separator : List α) (first second : List (List α)) :
    List.intercalate separator first <+: List.intercalate separator (first ++ second) := by
  induction first with
  | nil => exact List.nil_prefix
  | cons a first ih =>
    cases first with
    | nil =>
      cases second with
      | nil => exact List.prefix_refl _
      | cons b second =>
        rw [List.singleton_append, List.intercalate_cons_cons, List.append_assoc]
        simp
    | cons b first =>
      rw [List.cons_append, List.cons_append, List.intercalate_cons_cons, List.intercalate_cons_cons]
      exact (List.prefix_append_right_inj _).mpr ih

lemma isTooLong_append (parts : List Text) (h : path.isTooLong = true) :
    ({ path with parts := path.parts ++ parts } : Path).isTooLong = true := by
  obtain ⟨root, above⟩ := path
  simp only [Path.isTooLong, decide_eq_true_eq] at h ⊢
  unfold Path.text at h ⊢
  split_ifs at h with hempty
  · exact absurd h (by decide)
  · have hempty' : ¬ (root.isEmpty && (above ++ parts).isEmpty) = true := by
      simp only [Bool.and_eq_true, List.isEmpty_iff, List.append_eq_nil_iff] at hempty ⊢
      tauto
    obtain ⟨more, hmore⟩ := intercalate_prefix_append ['/'] above parts
    simp only [if_neg hempty', ← hmore, octetCount_append] at h ⊢
    omega

end Lengths

section Order

variable {p q : Path}

lemma precedes_iff {s t : Text} : s.precedes t = true ↔ s < t := by
  rw [Text.precedes, List.lex_eq_true_iff_lex]
  simp only [decide_eq_true_eq]
  rfl

lemma le_iff : Path.le p q = true ↔ p.parts ≤ q.parts := by
  rw [Path.le, Text.listLe, Bool.not_eq_true', ← Bool.not_eq_true, List.lex_eq_true_iff_lex, ← not_lt]
  simp only [precedes_iff]
  rfl

lemma isListing_sortPaths {paths : List Path} (root : Text) (hnodup : paths.Nodup)
    (hroot : ∀ path ∈ paths, path.root = root) : IsListing (sortPaths paths) (· ∈ paths) := by
  have hmem (path : Path) : path ∈ sortPaths paths ↔ path ∈ paths := List.mem_mergeSort
  have hsorted : (sortPaths paths).Pairwise fun p q => Path.le p q = true := by
    apply List.pairwise_mergeSort
    · intro p q r hpq hqr
      exact le_iff.mpr ((le_iff.mp hpq).trans (le_iff.mp hqr))
    · intro p q
      rw [Bool.or_eq_true, le_iff, le_iff]
      exact le_total p.parts q.parts
  have hdistinct : (sortPaths paths).Nodup := List.nodup_mergeSort.mpr hnodup
  refine ⟨hmem, hdistinct, (hsorted.and hdistinct).imp_of_mem ?_⟩
  rintro ⟨first, parts⟩ ⟨second, others⟩ hp hq ⟨hle, hne⟩
  have hroots : first = second := (hroot _ ((hmem _).mp hp)).trans (hroot _ ((hmem _).mp hq)).symm
  refine lt_of_le_of_ne (le_iff.mp hle) ?_
  rintro (rfl : parts = others)
  exact hne (by rw [hroots])

lemma IsListing.unique {files files' : List Path} {p : Path → Prop} (h : IsListing files p) (h' : IsListing files' p) :
    files = files' := by
  have hperm : files.Perm files' := by
    rw [List.perm_ext_iff_of_nodup h.nodup h'.nodup]
    exact fun path => (h.mem_iff path).trans (h'.mem_iff path).symm
  exact hperm.eq_of_pairwise (fun _ _ _ _ hlt hgt => absurd hgt hlt.asymm) h.increasing h'.increasing

lemma IsListing.congr {files : List Path} {p p' : Path → Prop} (h : IsListing files p) (hp : ∀ path, p path ↔ p' path) :
    IsListing files p' :=
  ⟨fun path => (h.mem_iff path).trans (hp path), h.nodup, h.increasing⟩

end Order

section DirectoryFiles

variable {tree : FileTree} {entries : List (Text × FileTree)} {here parts : List Text}

lemma directoryFiles_dir : (FileTree.dir entries).directoryFiles here = entries.flatMap (entryDirectoryFiles here) := by
  rw [FileTree.directoryFiles]
  induction entries with
  | nil => rw [entriesDirectoryFiles, List.flatMap_nil]
  | cons entry entries ih => rw [entriesDirectoryFiles, List.flatMap_cons, ih]

lemma mem_entryDirectoryFiles_iff {name : Text} :
    parts ∈ entryDirectoryFiles here (name, tree) ↔
      (name = directoryFile ∧ parts = here ++ [name] ∧ ∃ octets, tree = .file octets) ∨
        parts ∈ tree.directoryFiles (here ++ [name]) := by
  cases tree with
  | file octets =>
    rw [entryDirectoryFiles, FileTree.directoryFiles]
    split_ifs with hname <;> simp [hname]
  | dir entries => simp [entryDirectoryFiles, FileTree.directoryFiles]

lemma mem_directoryFiles_iff :
    parts ∈ tree.directoryFiles here ↔
      ∃ front octets, parts = here ++ (front ++ [directoryFile]) ∧
        Holds tree (front ++ [directoryFile]) (.file octets) := by
  induction tree using FileTree.induction generalizing here with
  | file octets =>
    rw [FileTree.directoryFiles]
    constructor
    · exact nofun
    · rintro ⟨front, octets, -, hfile⟩
      cases front <;> exact absurd hfile not_holds_cons
  | dir entries ih =>
    rw [directoryFiles_dir, List.mem_flatMap]
    constructor
    · rintro ⟨⟨name, tree⟩, hentry, hparts⟩
      rcases mem_entryDirectoryFiles_iff.mp hparts with ⟨rfl, rfl, octets, rfl⟩ | hparts
      · exact ⟨[], octets, rfl, .inside hentry .here⟩
      · obtain ⟨front, octets, rfl, hfile⟩ := (ih _ hentry).mp hparts
        exact ⟨name :: front, octets, by simp, .inside hentry hfile⟩
    · rintro ⟨front, octets, rfl, hfile⟩
      cases front with
      | nil =>
        obtain ⟨tree, hentry, hfile⟩ := holds_cons_iff.mp hfile
        obtain rfl := holds_nil_iff.mp hfile
        exact ⟨_, hentry, mem_entryDirectoryFiles_iff.mpr (.inl ⟨rfl, rfl, octets, rfl⟩)⟩
      | cons name front =>
        obtain ⟨tree, hentry, hfile⟩ := holds_cons_iff.mp hfile
        refine ⟨_, hentry, mem_entryDirectoryFiles_iff.mpr (.inr ((ih _ hentry).mpr ⟨front, octets, ?_, hfile⟩))⟩
        simp

lemma prefix_of_mem_entryDirectoryFiles {entry : Text × FileTree} (h : parts ∈ entryDirectoryFiles here entry) :
    here ++ [entry.1] <+: parts := by
  obtain ⟨name, tree⟩ := entry
  rcases mem_entryDirectoryFiles_iff.mp h with ⟨-, rfl, -⟩ | h
  · exact List.prefix_refl _
  · obtain ⟨front, octets, rfl, -⟩ := mem_directoryFiles_iff.mp h
    exact List.prefix_append _ _

lemma nodup_directoryFiles (h : IsProper tree) : (tree.directoryFiles here).Nodup := by
  induction tree using FileTree.induction generalizing here with
  | file octets => simp [FileTree.directoryFiles]
  | dir entries ih =>
    rw [directoryFiles_dir, List.nodup_flatMap]
    constructor
    · rintro ⟨name, tree⟩ hentry
      have hbelow : (tree.directoryFiles (here ++ [name])).Nodup := ih _ hentry (h.of_mem hentry)
      cases tree with
      | file octets =>
        rw [entryDirectoryFiles]
        split_ifs <;> simp
      | dir entries => simpa [entryDirectoryFiles, FileTree.directoryFiles] using hbelow
    · -- files below different entries differ in the name of the entry
      refine (List.pairwise_map.mp (h _ _ .here).1).imp ?_
      intro first second hne parts hfirst hsecond
      have hhere := prefix_of_mem_entryDirectoryFiles hfirst
      rw [List.prefix_iff_eq_take] at hhere
      have hother := prefix_of_mem_entryDirectoryFiles hsecond
      rw [List.prefix_iff_eq_take] at hother
      have heq : here ++ [first.1] = here ++ [second.1] := by
        rw [hhere, hother]
        simp
      exact hne (by simpa using heq)

end DirectoryFiles

section Leading

variable {fs : FileSystem} {path directory : Path} {tree : FileTree} {entries : List (Text × FileTree)}

lemma find_eq_ok_iff : fs.find path = .ok tree ↔ LeadsTo fs path tree ∧ path.isTooLong = false := by
  unfold FileSystem.find
  split_ifs with hnul hlong
  · constructor
    · exact nofun
    · rintro ⟨h, -⟩
      exact absurd hnul (by simp [h.free])
  · simp [hlong]
  · rw [Bool.not_eq_true] at hnul hlong
    exact ⟨fun h => ⟨⟨hnul, h⟩, hlong⟩, fun h => h.1.walk⟩

lemma LeadsTo.find_of_long (h : LeadsTo fs path tree) (hlong : path.isTooLong = true) :
    fs.find path = .error .tooLong := by
  simp [FileSystem.find, h.free, hlong]

lemma LeadsTo.isAdmitted_iff (h : LeadsTo fs path tree) : IsAdmitted fs path ↔ path.isTooLong = false := by
  cases hlong : path.isTooLong with
  | true => simp [IsAdmitted, h.find_of_long hlong]
  | false => simp [IsAdmitted, h.free, find_eq_ok_iff.mpr ⟨h, hlong⟩]

lemma LeadsTo.isFile_iff (h : LeadsTo fs path tree) (hshort : path.isTooLong = false) :
    fs.isFile path = true ↔ ∃ octets, tree = .file octets := by
  rw [FileSystem.isFile, find_eq_ok_iff.mpr ⟨h, hshort⟩]
  cases tree <;> simp [FileTree.isDir]

lemma LeadsTo.isProper (h : LeadsTo fs path tree) (hproper : IsProper fs.root) : IsProper tree :=
  isProper_of_walk hproper (List.forall_mem_nil _) h.walk

lemma LeadsTo.child (h : LeadsTo fs directory (.dir entries)) (hproper : IsProper fs.root) {entry : Text × FileTree}
    (hentry : entry ∈ entries) : LeadsTo fs (directory.child entry.1) entry.2 := by
  obtain ⟨hnodup, hnames⟩ := h.isProper hproper _ _ .here
  have hname := hnames entry hentry
  constructor
  · have hfree : (directory.parts.any fun part => part.contains (Char.ofNat 0)) = false := h.free
    rw [Path.hasNul, Path.child, List.any_append, hfree]
    simpa using hname.noNul
  · have hparts : fs.absoluteParts (directory.child entry.1) = fs.absoluteParts directory ++ [entry.1] := by
      unfold FileSystem.absoluteParts Path.child Path.isAbsolute
      split_ifs <;> simp
    rw [hparts, walk_concat hname.notDots hname.short h.walk, (lookup_eq_some_iff hnodup).mpr hentry]

end Leading

section Searching

variable {fs : FileSystem} {directory path : Path} {tree : FileTree} {entries : List (Text × FileTree)}
  {finder : Finder} {files : List Path}

lemma hasExtension_iff {extension name : Text} :
    Path.hasExtension extension name = true ↔ ∃ stem, stem ≠ [] ∧ name = stem ++ extension := by
  rw [Path.hasExtension, Bool.and_eq_true, List.isSuffixOf_iff_suffix]
  constructor
  · rintro ⟨⟨stem, rfl⟩, hlength⟩
    refine ⟨stem, ?_, rfl⟩
    rintro rfl
    simp at hlength
  · rintro ⟨stem, hne, rfl⟩
    exact ⟨List.suffix_append _ _, by simpa using hne⟩

lemma hasSuffix_testExtension_iff {name : Text} :
    HasSuffix name testExtension ↔ Path.hasExtension testExtension name = true := by
  rw [hasExtension_iff]
  constructor
  · rintro ⟨stem, -, hname, -, hne, -, -⟩
    exact ⟨stem, hne, hname⟩
  · rintro ⟨stem, hne, hname⟩
    exact ⟨stem, "txt".toList, hname, rfl, hne, by decide, by decide⟩

lemma search_inDirectory_eq_ok_iff (h : LeadsTo fs directory (.dir entries)) (hproper : IsProper fs.root) :
    fs.search .inDirectory directory = .ok files ↔ directory.isTooLong = false ∧
      (∀ path ∈ testEntries directory entries, path.isTooLong = false) ∧
        files = sortPaths ((testEntries directory entries).filter fs.isFile) := by
  have hadmitted : fs.firstPathFault? (testEntries directory entries) = none ↔
      ∀ path ∈ testEntries directory entries, path.isTooLong = false := by
    rw [firstPathFault?_eq_none_iff]
    refine forall₂_congr fun path hpath => ?_
    obtain ⟨entry, hentry, rfl⟩ := List.mem_map.mp hpath
    exact (h.child hproper (List.mem_of_mem_filter hentry)).isAdmitted_iff
  rw [← hadmitted]
  cases hlong : directory.isTooLong with
  | true => simp [FileSystem.search, FileSystem.entries, h.find_of_long hlong]
  | false =>
    have hfind := find_eq_ok_iff.mpr ⟨h, hlong⟩
    cases hfault : fs.firstPathFault? (testEntries directory entries) with
    | none => simp [search_inDirectory hfind hfault, eq_comm]
    | some fault => simp [search_inDirectory_of_fault hfind hfault]

lemma search_inDirectory_pair {first second : Path} (hfind : fs.find directory = .ok (.dir entries))
    (hnone : fs.firstPathFault? (testEntries directory entries) = none)
    (hfiles : (testEntries directory entries).filter fs.isFile = [second, first])
    (hle : Path.le second first = false) : fs.search .inDirectory directory = .ok [first, second] := by
  rw [search_inDirectory hfind hnone, hfiles]
  simp [sortPaths, List.mergeSort, hle]

lemma exists_search_inDirectory_iff (h : LeadsTo fs directory (.dir entries)) (hproper : IsProper fs.root) :
    (∃ files, fs.search .inDirectory directory = .ok files) ↔ directory.isTooLong = false ∧
      ∀ name ∈ entries.map Prod.fst, HasSuffix name testExtension → (directory.child name).isTooLong = false := by
  simp only [search_inDirectory_eq_ok_iff h hproper, testEntries, List.forall_mem_map, List.mem_filter,
    ← hasSuffix_testExtension_iff, and_imp]
  tauto

lemma search_below_eq (h : LeadsTo fs directory tree) :
    fs.search .below directory = .ok (sortPaths (directoryFilesBelow directory tree)) := by
  cases hlong : directory.isTooLong with
  | false => exact search_below (find_eq_ok_iff.mpr ⟨h, hlong⟩)
  | true =>
    have hnone : directoryFilesBelow directory tree = [] := by
      rw [directoryFilesBelow, List.filter_eq_nil_iff, List.forall_mem_map]
      intro parts hparts
      obtain ⟨front, octets, rfl, -⟩ := mem_directoryFiles_iff.mp hparts
      rw [Path.parent, List.nil_append, ← List.append_assoc, List.dropLast_concat, isTooLong_append front hlong]
      decide
    simp [FileSystem.search, h.find_of_long hlong, hnone, sortPaths]

lemma mem_directoryFilesBelow_iff_isSought :
    path ∈ directoryFilesBelow directory tree ↔
      IsSought directory tree .below path ∧ path.parent.isTooLong = false := by
  rw [directoryFilesBelow, List.mem_filter, Bool.not_eq_true', List.mem_map]
  apply and_congr_left'
  constructor
  · rintro ⟨parts, hparts, rfl⟩
    obtain ⟨front, octets, rfl, hfile⟩ := mem_directoryFiles_iff.mp hparts
    exact .directoryFile hfile
  · intro hsought
    cases hsought with
    | directoryFile hfile => exact ⟨_, mem_directoryFiles_iff.mpr ⟨_, _, rfl, hfile⟩, rfl⟩

lemma mem_testEntries_iff_isSought (h : LeadsTo fs directory (.dir entries)) (hproper : IsProper fs.root)
    (hlong : directory.isTooLong = false) (hshort : ∀ path ∈ testEntries directory entries, path.isTooLong = false) :
    path ∈ (testEntries directory entries).filter fs.isFile ↔
      IsSought directory (.dir entries) .inDirectory path ∧ path.parent.isTooLong = false := by
  rw [List.mem_filter]
  constructor
  · rintro ⟨hpath, hfile⟩
    have hpathShort := hshort path hpath
    obtain ⟨entry, hentry, rfl⟩ := List.mem_map.mp hpath
    obtain ⟨hentry, hname⟩ := List.mem_filter.mp hentry
    obtain ⟨octets, hoctets⟩ := ((h.child hproper hentry).isFile_iff hpathShort).mp hfile
    obtain ⟨name, tree⟩ := entry
    obtain rfl : tree = .file octets := hoctets
    refine ⟨.text (.inside hentry .here) (hasSuffix_testExtension_iff.mpr hname), ?_⟩
    simpa [Path.parent, Path.child] using hlong
  · rintro ⟨hsought, -⟩
    cases hsought with
    | @text name octets hfile hname =>
      obtain ⟨tree, hentry, hfile⟩ := holds_cons_iff.mp hfile
      obtain rfl := holds_nil_iff.mp hfile
      have hmem : directory.child name ∈ testEntries directory entries :=
        List.mem_map.mpr ⟨_, List.mem_filter.mpr ⟨hentry, hasSuffix_testExtension_iff.mp hname⟩, rfl⟩
      exact ⟨hmem, ((h.child hproper hentry).isFile_iff (hshort _ hmem)).mpr ⟨octets, rfl⟩⟩

lemma nodup_testEntries (h : IsProper (.dir entries)) : (testEntries directory entries).Nodup := by
  have hnames : ((entries.filter fun entry => Path.hasExtension testExtension entry.1).map Prod.fst).Nodup :=
    (h _ _ .here).1.sublist (List.filter_sublist.map _)
  have hchild : Function.Injective directory.child := fun a b hab => by simpa [Path.child] using hab
  have hpaths := hnames.map hchild
  rw [List.map_map] at hpaths
  exact hpaths

lemma nodup_directoryFilesBelow (directory : Path) (h : IsProper tree) :
    (directoryFilesBelow directory tree).Nodup := by
  apply List.Nodup.filter
  apply (nodup_directoryFiles h).map
  intro parts parts' heq
  simpa using heq

lemma isListing_of_search (h : LeadsTo fs directory (.dir entries)) (hproper : IsProper fs.root)
    (hsearch : fs.search finder directory = .ok files) :
    IsListing files fun path => IsSought directory (.dir entries) finder path ∧ path.parent.isTooLong = false := by
  have hdir := h.isProper hproper
  cases finder with
  | inDirectory =>
    obtain ⟨hlong, hshort, rfl⟩ := (search_inDirectory_eq_ok_iff h hproper).mp hsearch
    have hlisting := isListing_sortPaths directory.root ((nodup_testEntries hdir).filter fs.isFile) (by
      intro path hpath
      obtain ⟨entry, -, rfl⟩ := List.mem_map.mp (List.mem_of_mem_filter hpath)
      rfl)
    exact hlisting.congr fun path => mem_testEntries_iff_isSought h hproper hlong hshort
  | below =>
    rw [search_below_eq h] at hsearch
    cases hsearch
    have hlisting := isListing_sortPaths directory.root (nodup_directoryFilesBelow directory hdir) (by
      intro path hpath
      obtain ⟨parts, -, rfl⟩ := List.mem_map.mp (List.mem_of_mem_filter hpath)
      rfl)
    exact hlisting.congr fun path => mem_directoryFilesBelow_iff_isSought

end Searching

section Relisted

variable {fs fs' : FileSystem} {directory path : Path} {tree tree' : FileTree} {entries : List (Text × FileTree)}
  {finder : Finder} {files : List Path}

lemma IsRelisting.symm (h : IsRelisting fs fs') : IsRelisting fs' fs :=
  ⟨h.root.symm, h.workingDirectory.symm⟩

lemma LeadsTo.relisted (h : LeadsTo fs path tree) (hproper : IsProper fs.root) (hrelisting : IsRelisting fs fs') :
    ∃ tree', LeadsTo fs' path tree' ∧ Relists tree tree' := by
  obtain ⟨tree', hwalk, hrelists⟩ := walk_relists hrelisting.root .nil hproper (List.forall_mem_nil _) h.walk
  refine ⟨tree', ⟨h.free, ?_⟩, hrelists⟩
  rw [FileSystem.absoluteParts, hrelisting.workingDirectory]
  exact hwalk

lemma IsSought.relisted (h : IsSought directory tree finder path) (hrelists : Relists tree tree') :
    IsSought directory tree' finder path := by
  cases h with
  | text hfile hname => exact .text (hrelists.holds_file hfile) hname
  | directoryFile hfile => exact .directoryFile (hrelists.holds_file hfile)

lemma search_relisted (h : LeadsTo fs directory (.dir entries)) (hproper : IsProper fs.root)
    (hrelisting : IsRelisting fs fs') (hsearch : fs.search finder directory = .ok files) :
    fs'.search finder directory = .ok files := by
  obtain ⟨tree', h', hrelists⟩ := h.relisted hproper hrelisting
  obtain ⟨entries', rfl, hnames⟩ := hrelists.dir
  have hproper' := hrelisting.root.isProper hproper
  have hfound : ∃ files', fs'.search finder directory = .ok files' := by
    cases finder with
    | below => exact ⟨_, search_below_eq h'⟩
    | inDirectory =>
      obtain ⟨hlong, hshort⟩ := (exists_search_inDirectory_iff h hproper).mp ⟨files, hsearch⟩
      rw [exists_search_inDirectory_iff h' hproper']
      exact ⟨hlong, fun name hname => hshort name (hnames.mem_iff.mpr hname)⟩
  obtain ⟨files', hsearch'⟩ := hfound
  have hlisting' := (isListing_of_search h' hproper' hsearch').congr fun path =>
    and_congr_left' ⟨fun hsought => hsought.relisted hrelists.symm, fun hsought => hsought.relisted hrelists⟩
  rw [hsearch', hlisting'.unique (isListing_of_search h hproper hsearch)]

lemma search_relisted_iff (h : LeadsTo fs directory (.dir entries)) (hproper : IsProper fs.root)
    (hrelisting : IsRelisting fs fs') :
    fs.search finder directory = .ok files ↔ fs'.search finder directory = .ok files := by
  constructor
  · exact search_relisted h hproper hrelisting
  · intro hsearch'
    obtain ⟨tree', h', hrelists⟩ := h.relisted hproper hrelisting
    obtain ⟨entries', rfl, -⟩ := hrelists.dir
    exact search_relisted h' (hrelisting.root.isProper hproper) hrelisting.symm hsearch'

end Relisted

/-- In a directory of a proper tree each finder yields the files that it is there for, each once and in strict order,
whatever the order in which directories are listed. The finder that looks into the directory only yields nothing if the
path of the directory, or of an entry with the extension, is too long, and the other one leaves out the files in
directories whose path is. -/
theorem search_lists {fs : FileSystem} {directory : Path} {entries : List (Text × FileTree)}
    (hproper : IsProper fs.root) (hdirectory : LeadsTo fs directory (.dir entries)) :
    (∀ finder files, fs.search finder directory = .ok files →
        IsListing files fun path => IsSought directory (.dir entries) finder path ∧ path.parent.isTooLong = false) ∧
      ((∃ files, fs.search .inDirectory directory = .ok files) ↔ directory.isTooLong = false ∧
        ∀ name ∈ entries.map Prod.fst, HasSuffix name testExtension → (directory.child name).isTooLong = false) ∧
      (∃ files, fs.search .below directory = .ok files) ∧
      ∀ fs', IsRelisting fs fs' → ∀ finder files,
        fs.search finder directory = .ok files ↔ fs'.search finder directory = .ok files := by
  exact ⟨fun finder files => isListing_of_search hdirectory hproper, exists_search_inDirectory_iff hdirectory hproper,
    ⟨_, search_below_eq hdirectory⟩,
    fun fs' hrelisting finder files => search_relisted_iff hdirectory hproper hrelisting⟩

/-- A directory with three files and a directory that has the extension of test files. -/
theorem search_lists_nested :
    let entries : List (Text × FileTree) := [("b.txt".toList, .file []), ("a.txt".toList, .file []),
      ("sub.txt".toList, .dir [("tests.txt".toList, .file [])]), (".txt".toList, .file [])]
    let fs : FileSystem := ⟨.dir [("c".toList, .dir entries)], []⟩
    let directory : Path := ⟨[], ["c".toList]⟩
    IsProper fs.root ∧ LeadsTo fs directory (.dir entries) ∧
      (IsListing [directory.child "a.txt".toList, directory.child "b.txt".toList] fun path =>
        IsSought directory (.dir entries) .inDirectory path ∧ path.parent.isTooLong = false) ∧
      IsListing [(directory.child "sub.txt".toList).child "tests.txt".toList] fun path =>
        IsSought directory (.dir entries) .below path ∧ path.parent.isTooLong = false := by
  intro entries fs directory
  have hproper : IsProper fs.root := by
    simp only [fs, entries, isProper_dir_iff, List.forall_mem_cons, List.not_mem_nil, isProper_file, false_implies,
      implies_true, and_true]
    decide
  have hdirectory : LeadsTo fs directory (.dir entries) := ⟨by decide, rfl⟩
  have hsorted : fs.search .inDirectory directory =
      .ok [directory.child "a.txt".toList, directory.child "b.txt".toList] :=
    search_inDirectory_pair (find_eq_ok_iff.mpr ⟨hdirectory, by decide⟩) (by decide) (by decide +kernel) (by decide)
  exact ⟨hproper, hdirectory, (search_lists hproper hdirectory).1 .inDirectory _ hsorted,
    (search_lists hproper hdirectory).1 .below _ (by decide +kernel)⟩

/-- The path of the directory is not too long, but those of its two entries are. -/
theorem search_misses_deep_files :
    let names := List.replicate 15 (List.replicate 255 'd')
    let text := List.replicate 251 'n' ++ ".txt".toList
    let entries : List (Text × FileTree) :=
      [(text, .file []), (List.replicate 255 'd', .dir [(directoryFile, .file [])])]
    let fs : FileSystem := ⟨nested names (.dir entries), []⟩
    let directory : Path := ⟨['/'], names⟩
    IsProper fs.root ∧ LeadsTo fs directory (.dir entries) ∧ directory.isTooLong = false ∧
      IsSought directory (.dir entries) .inDirectory (directory.child text) ∧
      (∀ files, fs.search .inDirectory directory ≠ .ok files) ∧
      (∃ path, IsSought directory (.dir entries) .below path) ∧ fs.search .below directory = .ok [] := by
  intro names text entries fs directory
  have hnames : ∀ name ∈ names, IsFileName name := by decide +kernel
  have hentries : IsProper (.dir entries) := by
    simp only [entries, isProper_dir_iff, List.forall_mem_cons, List.not_mem_nil, isProper_file, false_implies,
      implies_true, and_true]
    decide +kernel
  have htext : IsSought directory (.dir entries) .inDirectory (directory.child text) :=
    .text (.inside List.mem_cons_self .here)
      ⟨List.replicate 251 'n', "txt".toList, rfl, rfl, by decide, by decide, by decide⟩
  have hbelow : Holds (.dir entries) ([List.replicate 255 'd'] ++ [directoryFile]) (.file []) :=
    .inside (List.mem_cons_of_mem _ List.mem_cons_self) (.inside List.mem_cons_self .here)
  have hfault : fs.search .inDirectory directory = .error (directory.child text, .tooLong) := by decide +kernel
  refine ⟨isProper_nested hnames hentries, ⟨by decide +kernel, walk_nested hnames⟩, by decide +kernel, htext, ?_,
    ⟨_, .directoryFile hbelow⟩, by decide +kernel⟩
  intro files hfiles
  rw [hfault] at hfiles
  cases hfiles

end SuiteRunner.Proofs
