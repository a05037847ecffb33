import Mathlib.Data.List.Nodup
import Mathlib.Tactic.Common
import SuiteRunner.File.Tree
import SuiteRunner.Proofs.LoadedFiles

/-!
# Trees of files

What stands where in a tree of files and directories, which trees a file system can hold, and when two trees differ
in nothing but the order in which directories list their entries.
-/

namespace SuiteRunner.Proofs

/-- What is reached in the tree by going down the names. -/
inductive Holds : FileTree → List Text → FileTree → Prop
  | here {tree : FileTree} : Holds tree [] tree
  | inside {entries : List (Text × FileTree)} {name : Text} {tree found : FileTree} {parts : List Text}
    (hentry : (name, tree) ∈ entries) (hfound : Holds tree parts found) : Holds (.dir entries) (name :: parts) found

/-- A name that an entry of a directory can have. -/
structure IsFileName (name : Text) : Prop where
  nonempty : name ≠ []
  notDot : name ≠ ['.']
  notDots : name ≠ ['.', '.']
  noSlash : '/' ∉ name
  noNul : Char.ofNat 0 ∉ name
  short : name.octetCount ≤ maxNameLength

/-- A tree that a file system can hold: the entries of a directory have different names. -/
def IsProper (tree : FileTree) : Prop :=
  ∀ parts entries, Holds tree parts (.dir entries) →
    (entries.map Prod.fst).Nodup ∧ ∀ entry ∈ entries, IsFileName entry.1

/-- Directories with one entry each, one in the other, and the tree in the last of them. -/
def nested (names : List Text) (tree : FileTree) : FileTree :=
  names.foldr (fun name tree => .dir [(name, tree)]) tree

/-- The trees differ only in the order in which directories list their entries. -/
inductive Relists : FileTree → FileTree → Prop
  | refl (tree : FileTree) : Relists tree tree
  | reorder {entries entries' : List (Text × FileTree)} (h : entries.Perm entries') :
    Relists (.dir entries) (.dir entries')
  | inside {front back : List (Text × FileTree)} {name : Text} {tree tree' : FileTree} (h : Relists tree tree') :
    Relists (.dir (front ++ (name, tree) :: back)) (.dir (front ++ (name, tree') :: back))
  | trans {first second third : FileTree} (h : Relists first second) (h' : Relists second third) :
    Relists first third

section Reaching

variable {tree found : FileTree} {entries : List (Text × FileTree)} {name : Text} {parts : List Text}

/-- What holds of files, and of directories if it holds of their entries, holds of all trees. -/
theorem FileTree.induction {p : FileTree → Prop} (file : ∀ octets, p (.file octets))
    (dir : ∀ entries, (∀ entry ∈ entries, p entry.2) → p (.dir entries)) : ∀ tree, p tree
  | .file octets => file octets
  | .dir entries => dir entries fun entry _ => FileTree.induction file dir entry.2
termination_by tree => tree
decreasing_by
  obtain ⟨name, tree⟩ := entry
  have hlt := List.sizeOf_lt_of_mem ‹(name, tree) ∈ entries›
  simp only [Prod.mk.sizeOf_spec] at hlt
  simp only [FileTree.dir.sizeOf_spec]
  omega

lemma holds_nil_iff : Holds tree [] found ↔ found = tree := by
  constructor
  · rintro ⟨⟩
    rfl
  · rintro rfl
    exact .here

lemma holds_cons_iff :
    Holds (.dir entries) (name :: parts) found ↔ ∃ tree, (name, tree) ∈ entries ∧ Holds tree parts found := by
  constructor
  · rintro (_ | ⟨hentry, hfound⟩)
    exact ⟨_, hentry, hfound⟩
  · rintro ⟨tree, hentry, hfound⟩
    exact .inside hentry hfound

lemma not_holds_cons {octets : List UInt8} : ¬ Holds (.file octets) (name :: parts) found := by
  rintro ⟨⟩

lemma Holds.append {rest : List Text} {last : FileTree} (h : Holds tree parts found) (hrest : Holds found rest last) :
    Holds tree (parts ++ rest) last := by
  induction h with
  | here => exact hrest
  | inside hentry _ ih => exact .inside hentry (ih hrest)

end Reaching

section Proper

variable {tree found : FileTree} {entries : List (Text × FileTree)} {parts : List Text}

instance : DecidablePred IsFileName := fun name =>
  decidable_of_iff (name ≠ [] ∧ name ≠ ['.'] ∧ name ≠ ['.', '.'] ∧ '/' ∉ name ∧ Char.ofNat 0 ∉ name ∧
      name.octetCount ≤ maxNameLength)
    ⟨fun ⟨h₁, h₂, h₃, h₄, h₅, h₆⟩ => ⟨h₁, h₂, h₃, h₄, h₅, h₆⟩,
      fun ⟨h₁, h₂, h₃, h₄, h₅, h₆⟩ => ⟨h₁, h₂, h₃, h₄, h₅, h₆⟩⟩

lemma IsProper.of_holds (h : IsProper tree) (hfound : Holds tree parts found) : IsProper found :=
  fun _ _ hentries => h _ _ (hfound.append hentries)

lemma IsProper.of_mem {entry : Text × FileTree} (h : IsProper (.dir entries)) (hentry : entry ∈ entries) :
    IsProper entry.2 :=
  h.of_holds (.inside hentry .here)

@[simp] lemma isProper_file (octets : List UInt8) : IsProper (.file octets) := by
  rintro parts entries (_ | _)

lemma isProper_dir_iff :
    IsProper (.dir entries) ↔ (entries.map Prod.fst).Nodup ∧ (∀ entry ∈ entries, IsFileName entry.1) ∧
      ∀ entry ∈ entries, IsProper entry.2 := by
  constructor
  · intro h
    exact ⟨(h _ _ .here).1, (h _ _ .here).2, fun entry => h.of_mem⟩
  · rintro ⟨hnodup, hnames, hentries⟩ parts below hbelow
    cases hbelow with
    | here => exact ⟨hnodup, hnames⟩
    | inside hentry hfound => exact hentries _ hentry _ _ hfound

lemma isProper_nested {names : List Text} (hnames : ∀ name ∈ names, IsFileName name) (h : IsProper tree) :
    IsProper (nested names tree) := by
  induction names with
  | nil => exact h
  | cons name names ih =>
    obtain ⟨hname, hothers⟩ := List.forall_mem_cons.mp hnames
    rw [nested, List.foldr_cons, isProper_dir_iff]
    simpa using ⟨hname, ih hothers⟩

lemma lookup_eq_some_iff {α β : Type} [BEq α] [LawfulBEq α] {entries : List (α × β)}
    (h : (entries.map Prod.fst).Nodup) {key : α} {value : β} :
    entries.lookup key = some value ↔ (key, value) ∈ entries := by
  induction entries with
  | nil => simp
  | cons entry entries ih =>
    obtain ⟨first, second⟩ := entry
    rw [List.map_cons, List.nodup_cons] at h
    rw [List.lookup_cons, List.mem_cons]
    by_cases hkey : key = first
    · subst hkey
      have hnot : (key, value) ∉ entries := fun hmem => h.1 (List.mem_map.mpr ⟨_, hmem, rfl⟩)
      simp [hnot, eq_comm]
    · have hne : (key == first) = false := beq_false_of_ne hkey
      simp [hne, hkey, ih h.2]

end Proper

section Walking

variable {tree found : FileTree} {above : List FileTree} {entries : List (Text × FileTree)} {parts : List Text}

lemma isProper_of_walk (h : IsProper tree) (habove : ∀ tree ∈ above, IsProper tree)
    (hwalk : tree.walk above parts = .ok found) : IsProper found := by
  fun_induction FileTree.walk above tree parts with
  | case1 above tree =>
    cases hwalk
    exact h
  | case2 => cases hwalk
  | case3 entries rest ih => exact ih h (by simp) hwalk
  | case4 entries rest nearest others ih =>
    obtain ⟨hnearest, hothers⟩ := List.forall_mem_cons.mp habove
    exact ih hnearest hothers hwalk
  | case5 => cases hwalk
  | case6 => cases hwalk
  | case7 above entries part rest _ _ tree hlookup ih =>
    have hentry : (part, tree) ∈ entries := (lookup_eq_some_iff (h _ _ .here).1).mp hlookup
    exact ih (h.of_mem hentry) (List.forall_mem_cons.mpr ⟨h, habove⟩) hwalk

lemma walk_entry {name : Text} (hdots : name ≠ ['.', '.']) (hshort : name.octetCount ≤ maxNameLength) :
    (FileTree.dir entries).walk above (name :: parts) =
      match entries.lookup name with
      | none => .error .notFound
      | some tree => tree.walk (.dir entries :: above) parts := by
  have hlong : ¬ name.octetCount > maxNameLength := by omega
  cases hlookup : entries.lookup name with
  | none => cases above <;> simp only [FileTree.walk, if_neg hdots, if_neg hlong, hlookup]
  | some tree => cases above <;> simp only [FileTree.walk, if_neg hdots, if_neg hlong, hlookup]

lemma walk_nested {names : List Text} (hnames : ∀ name ∈ names, IsFileName name) :
    (nested names tree).walk above names = .ok tree := by
  induction names generalizing above with
  | nil => rw [nested, List.foldr_nil, FileTree.walk]
  | cons name names ih =>
    obtain ⟨hname, hothers⟩ := List.forall_mem_cons.mp hnames
    rw [nested, List.foldr_cons, walk_entry hname.notDots hname.short, List.lookup_cons, beq_self_eq_true]
    exact ih hothers

lemma walk_concat {name : Text} (hdots : name ≠ ['.', '.']) (hshort : name.octetCount ≤ maxNameLength)
    (hwalk : tree.walk above parts = .ok (.dir entries)) :
    tree.walk above (parts ++ [name]) =
      match entries.lookup name with
      | none => .error .notFound
      | some found => .ok found := by
  fun_induction FileTree.walk above tree parts with
  | case1 above tree =>
    cases hwalk
    rw [List.nil_append, walk_entry hdots hshort]
    simp only [FileTree.walk]
  | case2 => cases hwalk
  | case3 entries rest ih =>
    rw [List.cons_append, FileTree.walk, if_pos rfl]
    exact ih hwalk
  | case4 entries rest nearest others ih =>
    rw [List.cons_append, FileTree.walk, if_pos rfl]
    exact ih hwalk
  | case5 => cases hwalk
  | case6 => cases hwalk
  | case7 above entries part rest hpart hlong tree hlookup ih =>
    rw [List.cons_append, walk_entry hpart (by omega), hlookup]
    exact ih hwalk

end Walking

section Relisting

variable {tree tree' found : FileTree} {entries entries' : List (Text × FileTree)} {parts : List Text}

lemma Relists.symm (h : Relists tree tree') : Relists tree' tree := by
  induction h with
  | refl tree => exact .refl tree
  | reorder h => exact .reorder h.symm
  | inside _ ih => exact .inside ih
  | trans _ _ ih ih' => exact ih'.trans ih

lemma Relists.eq_file {octets : List UInt8} (h : Relists (.file octets) tree') : tree' = .file octets := by
  generalize htree : FileTree.file octets = tree at h
  induction h with
  | refl tree => rfl
  | reorder h => cases htree
  | inside _ _ => cases htree
  | trans _ _ ih ih' =>
    obtain rfl := ih htree
    exact ih' htree

lemma Relists.dir (h : Relists (.dir entries) tree') :
    ∃ entries', tree' = .dir entries' ∧ (entries.map Prod.fst).Perm (entries'.map Prod.fst) := by
  generalize htree : FileTree.dir entries = tree at h
  induction h generalizing entries with
  | refl tree => exact ⟨entries, htree.symm, .refl _⟩
  | reorder h =>
    cases htree
    exact ⟨_, rfl, h.map _⟩
  | inside _ _ =>
    cases htree
    exact ⟨_, rfl, by simp⟩
  | trans _ _ ih ih' =>
    obtain ⟨between, rfl, hbetween⟩ := ih htree
    obtain ⟨entries', rfl, hentries'⟩ := ih' rfl
    exact ⟨entries', rfl, hbetween.trans hentries'⟩

lemma Relists.holds (h : Relists tree tree') (hfound : Holds tree parts found) :
    ∃ found', Holds tree' parts found' ∧ Relists found found' := by
  induction h generalizing parts found with
  | refl tree => exact ⟨found, hfound, .refl found⟩
  | reorder h =>
    cases hfound with
    | here => exact ⟨_, .here, .reorder h⟩
    | inside hentry hfound => exact ⟨found, .inside (h.mem_iff.mp hentry) hfound, .refl found⟩
  | @inside front back name tree tree' h ih =>
    cases hfound with
    | here => exact ⟨_, .here, .inside h⟩
    | @inside _ part tree'' _ parts hentry hfound =>
      rcases List.mem_append.mp hentry with hfront | hback
      · exact ⟨found, .inside (List.mem_append_left _ hfront) hfound, .refl found⟩
      · rcases List.mem_cons.mp hback with heq | hback
        · cases heq
          obtain ⟨found', hfound', hrelists⟩ := ih hfound
          exact ⟨found', .inside (List.mem_append_right _ List.mem_cons_self) hfound', hrelists⟩
        · exact ⟨found, .inside (List.mem_append_right _ (List.mem_cons_of_mem _ hback)) hfound, .refl found⟩
  | trans _ _ ih ih' =>
    obtain ⟨between, hbetween, hrelists⟩ := ih hfound
    obtain ⟨found', hfound', hrelists'⟩ := ih' hbetween
    exact ⟨found', hfound', hrelists.trans hrelists'⟩

lemma Relists.holds_file {octets : List UInt8} (h : Relists tree tree') (hfound : Holds tree parts (.file octets)) :
    Holds tree' parts (.file octets) := by
  obtain ⟨found', hfound', hrelists⟩ := h.holds hfound
  rwa [hrelists.eq_file] at hfound'

lemma Relists.isProper (h : Relists tree tree') (hproper : IsProper tree) : IsProper tree' := by
  intro parts entries' hentries'
  obtain ⟨found, hfound, hrelists⟩ := h.symm.holds hentries'
  obtain ⟨entries, rfl, hnames⟩ := hrelists.dir
  obtain ⟨hnodup, hvalid⟩ := hproper parts entries hfound
  refine ⟨hnames.nodup_iff.mpr hnodup, ?_⟩
  rw [← List.forall_mem_map (f := Prod.fst) (P := IsFileName)] at hvalid ⊢
  exact fun name hname => hvalid name (hnames.mem_iff.mp hname)

lemma walk_relists {above above' : List FileTree} (h : Relists tree tree') (habove : List.Forall₂ Relists above above')
    (hproper : IsProper tree) (hproperAbove : ∀ tree ∈ above, IsProper tree)
    (hwalk : tree.walk above parts = .ok found) :
    ∃ found', tree'.walk above' parts = .ok found' ∧ Relists found found' := by
  -- double dots lead back to a directory that the walk has been through, so those are compared as well
  fun_induction FileTree.walk above tree parts generalizing above' tree' with
  | case1 above tree =>
    cases hwalk
    exact ⟨tree', by simp only [FileTree.walk], h⟩
  | case2 => cases hwalk
  | case3 entries rest ih =>
    obtain ⟨entries', rfl, -⟩ := h.dir
    cases habove
    rw [FileTree.walk, if_pos rfl]
    exact ih h .nil hproper (by simp) hwalk
  | case4 entries rest nearest others ih =>
    obtain ⟨entries', rfl, -⟩ := h.dir
    obtain ⟨hnearest, hothers⟩ := List.forall_mem_cons.mp hproperAbove
    cases habove with
    | cons hfirst hrest =>
      rw [FileTree.walk, if_pos rfl]
      exact ih hfirst hrest hnearest hothers hwalk
  | case5 => cases hwalk
  | case6 => cases hwalk
  | case7 above entries part rest hpart hlong tree hlookup ih =>
    have hentry : (part, tree) ∈ entries := (lookup_eq_some_iff (hproper _ _ .here).1).mp hlookup
    obtain ⟨other, hother, hrelists⟩ := h.holds (.inside hentry .here)
    have hproper' := h.isProper hproper
    obtain ⟨entries', rfl, -⟩ := h.dir
    obtain ⟨_, hentry', rfl⟩ := by simpa only [holds_cons_iff, holds_nil_iff] using hother
    rw [walk_entry hpart (by omega), (lookup_eq_some_iff (hproper' _ _ .here).1).mpr hentry']
    exact ih hrelists (.cons h habove) (hproper.of_mem hentry) (List.forall_mem_cons.mpr ⟨hproper, hproperAbove⟩) hwalk

end Relisting

end SuiteRunner.Proofs
