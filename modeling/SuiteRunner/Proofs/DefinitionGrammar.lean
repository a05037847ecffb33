import Mathlib.Data.List.Nodup
import SuiteRunner.Proofs.SoundWorld

/-!
# The grammar of definitions

A source compiles exactly if each of its lines that has words, and is no line of extensions, is a procedure or a
reporter under a name of its own. The tables are then those of the lines in order; otherwise the world stays as it is.
-/

namespace SuiteRunner.Proofs

/-- The words of the lines that have any and do not start with the word for extensions. -/
def definitionLines (lines : List Text) : List (List Text) :=
  (lines.map Text.words).filter fun words => words ≠ [] ∧ words.head? ≠ some "extensions".toList

/-- The words make up a procedure or a reporter, whose name is the second of them. -/
structure IsDefinition (words : List Text) : Prop where
  length : 3 ≤ words.length
  first : words.head? = some "to".toList ∨ words.head? = some "to-report".toList
  last : words.getLast? = some "end".toList
  report : words.head? = some "to-report".toList → words[2]? = some "report".toList ∧ 5 ≤ words.length

/-- The words start with the given one and bind the name to the body, which stands behind so many words and in front of
the last. -/
structure Binds (first : Text) (front : Nat) (words : List Text) (name body : Text) : Prop where
  first : words.head? = some first
  name : words[1]? = some name
  body : Text.unwords (words.drop front).dropLast = body

lemma definitionLines_cons_of_counted {line : Text} (lines : List Text)
    (h : line.words ≠ [] ∧ line.words.head? ≠ some "extensions".toList) :
    definitionLines (line :: lines) = line.words :: definitionLines lines :=
  List.filter_cons_of_pos (decide_eq_true h)

lemma definitionLines_cons_of_passed {line : Text} (lines : List Text)
    (h : ¬ (line.words ≠ [] ∧ line.words.head? ≠ some "extensions".toList)) :
    definitionLines (line :: lines) = definitionLines lines :=
  List.filter_cons_of_neg fun hcounted => h (of_decide_eq_true hcounted)

lemma IsDefinition.exists_name {words : List Text} (h : IsDefinition words) : ∃ name, words[1]? = some name := by
  have hlength := h.length
  exact ⟨_, List.getElem?_eq_getElem (by omega)⟩

end SuiteRunner.Proofs

namespace SuiteRunner

namespace World.Definitions
open Proofs

variable {ds ds' : Definitions} {name : Text} {body words : List Text}

/-- The entry that the words bind if they start with the given one. -/
def binding? (first : Text) (front : Nat) (words : List Text) : Option (Text × Text) :=
  if words.head? = some first then
    words[1]?.map fun name => (name, Text.unwords (words.drop front).dropLast)
  else none

/-- The definitions with the entry that the words bind at the end. -/
def extendBy (ds : Definitions) (words : List Text) : Definitions :=
  ⟨ds.procedures ++ (binding? "to".toList 2 words).toList, ds.reporters ++ (binding? "to-report".toList 3 words).toList⟩

lemma binding?_eq_some_iff {first : Text} {front : Nat} {bound : Text × Text} :
    binding? first front words = some bound ↔ Binds first front words bound.1 bound.2 := by
  unfold binding?
  split
  case isTrue hfirst =>
    rw [Option.map_eq_some_iff]
    constructor
    · rintro ⟨name, hname, rfl⟩
      exact ⟨hfirst, hname, rfl⟩
    · rintro ⟨-, hname, hbody⟩
      exact ⟨bound.1, hname, Prod.ext rfl hbody⟩
  case isFalse hfirst => exact iff_of_false nofun fun h => hfirst h.first

lemma addBody_procedure_eq_ok_iff :
    ds.addBody false name body = .ok ds' ↔
      ds.defines name = false ∧ ds' = { ds with procedures := ds.procedures ++ [(name, Text.unwords body)] } := by
  unfold addBody
  split
  case isTrue h => simp [h]
  case isFalse h =>
    rw [Bool.not_eq_true] at h
    rw [Table.put_of_has_eq_false (not_defines h).1]
    simp [h, eq_comm]

lemma addBody_reporter_eq_ok_iff :
    ds.addBody true name body = .ok ds' ↔
      ds.defines name = false ∧ ∃ value, (body = "report".toList :: value ∧ value ≠ []) ∧
        ds' = { ds with reporters := ds.reporters ++ [(name, Text.unwords value)] } := by
  unfold addBody
  split
  case isTrue h => simp [h]
  case isFalse h =>
    rw [Bool.not_eq_true] at h
    rw [if_pos rfl]
    split
    case h_1 head next rest =>
      rw [Table.put_of_has_eq_false (not_defines h).2]
      split
      case isTrue hhead => simp [h, hhead, and_assoc, eq_comm]
      case isFalse hhead =>
        refine iff_of_false nofun ?_
        rintro ⟨-, _, ⟨hbody, -⟩, -⟩
        exact hhead (List.cons.inj hbody).1
    case h_2 hshape =>
      refine iff_of_false nofun ?_
      rintro ⟨-, value, ⟨hbody, hvalue⟩, -⟩
      obtain ⟨next, rest, rfl⟩ := List.exists_cons_of_ne_nil hvalue
      exact hshape _ _ _ hbody

lemma isDefinition_to_iff {next : Text} {more : List Text} :
    IsDefinition ("to".toList :: name :: next :: more) ↔ (next :: more).getLast? = some "end".toList := by
  constructor
  · intro h
    simpa using h.last
  · intro h
    exact ⟨by simp, .inl rfl, by simpa using h, fun hfirst => absurd (Option.some.inj hfirst) (by decide)⟩

lemma isDefinition_toReport_iff {next : Text} {more : List Text} :
    IsDefinition ("to-report".toList :: name :: next :: more) ↔
      (next :: more).getLast? = some "end".toList ∧ next = "report".toList ∧ 2 ≤ more.length := by
  constructor
  · intro h
    obtain ⟨hnext, hlength⟩ := h.report rfl
    refine ⟨by simpa using h.last, by simpa using hnext, ?_⟩
    rw [List.length_cons, List.length_cons, List.length_cons] at hlength
    omega
  · rintro ⟨hlast, rfl, hlength⟩
    refine ⟨by simp, .inr rfl, by simpa using hlast, fun _ => ⟨rfl, ?_⟩⟩
    rw [List.length_cons, List.length_cons, List.length_cons]
    omega

lemma dropLast_eq_report_iff {next : Text} {more value : List Text} :
    ((next :: more).dropLast = "report".toList :: value ∧ value ≠ []) ↔
      (next = "report".toList ∧ 2 ≤ more.length) ∧ value = more.dropLast := by
  match more with
  | [] => simp
  | [last] => simp
  | a :: b :: more =>
    simp only [List.dropLast_cons_cons, List.cons.injEq, List.length_cons]
    constructor
    · rintro ⟨⟨rfl, rfl⟩, -⟩
      exact ⟨⟨rfl, by omega⟩, rfl⟩
    · rintro ⟨⟨rfl, -⟩, rfl⟩
      exact ⟨⟨rfl, rfl⟩, List.cons_ne_nil _ _⟩

lemma addLine_eq_ok_iff {line : Text} (hwords : line.words ≠ []) (hhead : line.words.head? ≠ some "extensions".toList) :
    ds.addLine line = .ok ds' ↔
      IsDefinition line.words ∧ (∀ name, line.words[1]? = some name → ds.defines name = false) ∧
        ds' = ds.extendBy line.words := by
  unfold addLine
  split
  case h_1 hnil => exact absurd hnil hwords
  case h_2 head rest hshape =>
    rw [hshape] at hhead ⊢
    rw [if_neg fun h => hhead (congrArg some h)]
    dsimp only
    split
    case isTrue hother =>
      refine iff_of_false nofun fun h => ?_
      rcases h.1.first with hto | hto
      · exact hother.1 (Option.some.inj hto)
      · exact hother.2 (Option.some.inj hto)
    case isFalse hkind =>
      split
      case h_2 hshort =>
        refine iff_of_false nofun fun h => ?_
        match rest, hshort, h.1.length with
        | [], _, hlength => simp at hlength
        | [name], _, hlength => simp at hlength
        | name :: next :: more, hshort, _ => exact hshort name next more rfl
      case h_1 name next more =>
        rw [not_and_or, not_not, not_not] at hkind
        split
        case isFalse hend =>
          refine iff_of_false nofun fun h => hend ?_
          simpa using h.1.last
        case isTrue hend =>
          rcases hkind with rfl | rfl
          · have hkind : ("to".toList == "to-report".toList) = false := by decide
            rw [hkind, addBody_procedure_eq_ok_iff, isDefinition_to_iff]
            simp [hend, extendBy, binding?]
          · have hkind : ("to-report".toList == "to-report".toList) = true := by decide
            rw [hkind, addBody_reporter_eq_ok_iff, isDefinition_toReport_iff]
            simp only [dropLast_eq_report_iff]
            simp [hend, extendBy, binding?, and_comm, and_left_comm, and_assoc]

lemma compiler_of_addBody_eq_error {reports : Bool} {fault : Fault}
    (h : ds.addBody reports name body = .error fault) : ∃ message, fault = .compiler message := by
  unfold addBody addBody.noValue at h
  split_ifs at h
  · cases h
    exact ⟨_, rfl⟩
  · split at h
    · split_ifs at h
      cases h
      exact ⟨_, rfl⟩
    · cases h
      exact ⟨_, rfl⟩

lemma compiler_of_addLine_eq_error {line : Text} {fault : Fault} (h : ds.addLine line = .error fault) :
    ∃ message, fault = .compiler message := by
  unfold addLine at h
  split at h
  case h_1 => cases h
  case h_2 =>
    dsimp only at h
    split_ifs at h
    · cases h
      exact ⟨_, rfl⟩
    · split at h
      · split_ifs at h
        · exact compiler_of_addBody_eq_error h
        · cases h
          exact ⟨_, rfl⟩
      · cases h
        exact ⟨_, rfl⟩

lemma addLine_of_passed {line : Text} (h : ¬ (line.words ≠ [] ∧ line.words.head? ≠ some "extensions".toList)) :
    ds.addLine line = .ok ds := by
  unfold addLine
  split
  case h_1 => rfl
  case h_2 head rest hshape =>
    rw [hshape] at h
    rw [if_pos]
    simpa using h

lemma binding?_of_head {first : Text} (front : Nat) (hfirst : words.head? = some first)
    (hname : words[1]? = some name) :
    binding? first front words = some (name, Text.unwords (words.drop front).dropLast) := by
  rw [binding?, if_pos hfirst, hname, Option.map_some]

lemma binding?_of_head_ne {first : Text} (front : Nat) (hfirst : words.head? ≠ some first) :
    binding? first front words = none :=
  if_neg hfirst

lemma defines_extendBy (h : IsDefinition words) (hname : words[1]? = some name) (other : Text) :
    (ds.extendBy words).defines other = (ds.defines other || other == name) := by
  rcases h.first with hfirst | hfirst
  · have hother : words.head? ≠ some "to-report".toList := by
      rw [hfirst]
      exact fun h => absurd (Option.some.inj h) (by decide)
    rw [defines, extendBy, binding?_of_head 2 hfirst hname, binding?_of_head_ne 3 hother, Option.toList_some,
      Option.toList_none, List.append_nil, Table.has_append_singleton, Bool.or_right_comm, defines]
  · have hother : words.head? ≠ some "to".toList := by
      rw [hfirst]
      exact fun h => absurd (Option.some.inj h) (by decide)
    rw [defines, extendBy, binding?_of_head 3 hfirst hname, binding?_of_head_ne 2 hother, Option.toList_some,
      Option.toList_none, List.append_nil, Table.has_append_singleton, ← Bool.or_assoc, defines]

lemma foldl_extendBy (found : List (List Text)) (ds : Definitions) :
    found.foldl extendBy ds = ⟨ds.procedures ++ found.filterMap (binding? "to".toList 2),
      ds.reporters ++ found.filterMap (binding? "to-report".toList 3)⟩ := by
  have hcons (first : Text) (front : Nat) (words : List Text) (found : List (List Text)) :
      (binding? first front words).toList ++ found.filterMap (binding? first front) =
        (words :: found).filterMap (binding? first front) := by
    rw [List.filterMap_cons]
    cases binding? first front words <;> rfl
  induction found generalizing ds with
  | nil => rw [List.foldl_nil, List.filterMap_nil, List.filterMap_nil, List.append_nil, List.append_nil]
  | cons words found ih => rw [List.foldl_cons, ih, extendBy, List.append_assoc, List.append_assoc, hcons, hcons]

lemma defines_extendBy_eq_false_iff (h : IsDefinition words) (hname : words[1]? = some name) {other : Text} :
    (ds.extendBy words).defines other = false ↔ ds.defines other = false ∧ other ≠ name := by
  rw [defines_extendBy h hname, Bool.or_eq_false_iff, beq_eq_false_iff_ne]

/-- Lines are added one after the other exactly if each defines something under a name that is new. -/
theorem addLines_eq_ok_iff {lines : List Text} :
    lines.foldlM addLine ds = .ok ds' ↔
      (∀ words ∈ definitionLines lines, IsDefinition words) ∧ ((definitionLines lines).map (·[1]?)).Nodup ∧
        (∀ words ∈ definitionLines lines, ∀ name, words[1]? = some name → ds.defines name = false) ∧
          ds' = (definitionLines lines).foldl extendBy ds := by
  -- on the lines, for all definitions before them: what a line defines is among those before the next one
  induction lines generalizing ds with
  | nil =>
    constructor
    · rintro ⟨⟩
      exact ⟨nofun, .nil, nofun, rfl⟩
    · rintro ⟨-, -, -, rfl⟩
      rfl
  | cons line lines ih =>
    have hcons : (line :: lines).foldlM addLine ds = .ok ds' ↔
        ∃ next, ds.addLine line = .ok next ∧ lines.foldlM addLine next = .ok ds' := by
      rw [List.foldlM_cons]
      cases ds.addLine line <;> simp [bind, Except.bind]
    rw [hcons]
    by_cases hline : line.words ≠ [] ∧ line.words.head? ≠ some "extensions".toList
    · rw [definitionLines_cons_of_counted lines hline, List.map_cons, List.nodup_cons, List.forall_mem_cons,
        List.forall_mem_cons, List.foldl_cons]
      simp only [addLine_eq_ok_iff hline.1 hline.2, ih]
      constructor
      · rintro ⟨_, ⟨hdefinition, hnew, rfl⟩, hdefinitions, hnodup, hfresh, hds⟩
        obtain ⟨name, hname⟩ := hdefinition.exists_name
        simp only [defines_extendBy_eq_false_iff hdefinition hname] at hfresh
        refine ⟨⟨hdefinition, hdefinitions⟩, ⟨?_, hnodup⟩, ⟨hnew, fun w hw n hn => (hfresh w hw n hn).1⟩, hds⟩
        intro hmem
        obtain ⟨words, hwords, hsame⟩ := List.mem_map.mp hmem
        exact (hfresh words hwords name (hsame.trans hname)).2 rfl
      · rintro ⟨⟨hdefinition, hdefinitions⟩, ⟨hnot, hnodup⟩, ⟨hnew, hfresh⟩, hds⟩
        obtain ⟨name, hname⟩ := hdefinition.exists_name
        refine ⟨_, ⟨hdefinition, hnew, rfl⟩, hdefinitions, hnodup, fun words hwords other hother => ?_, hds⟩
        rw [defines_extendBy_eq_false_iff hdefinition hname]
        refine ⟨hfresh words hwords other hother, ?_⟩
        rintro rfl
        exact hnot (List.mem_map.mpr ⟨words, hwords, hother.trans hname.symm⟩)
    · rw [definitionLines_cons_of_passed lines hline, addLine_of_passed hline]
      simp only [Except.ok.injEq, exists_eq_left', ih]

lemma ofSource_eq_ok_iff {source : Text} :
    ofSource source = .ok ds ↔
      ((∀ words ∈ definitionLines source.lines, IsDefinition words) ∧
        ((definitionLines source.lines).map (·[1]?)).Nodup) ∧
        ds = ⟨(definitionLines source.lines).filterMap (binding? "to".toList 2),
          (definitionLines source.lines).filterMap (binding? "to-report".toList 3)⟩ := by
  rw [ofSource, addLines_eq_ok_iff, foldl_extendBy, List.nil_append, List.nil_append, and_assoc]
  exact and_congr_right fun _ => and_congr_right fun _ => and_iff_right fun _ _ _ _ => rfl

lemma compiler_of_addLines_eq_error {lines : List Text} {fault : Fault} (h : lines.foldlM addLine ds = .error fault) :
    ∃ message, fault = .compiler message := by
  induction lines generalizing ds with
  | nil => cases h
  | cons line lines ih =>
    rw [List.foldlM_cons] at h
    cases hline : ds.addLine line with
    | error first =>
      rw [hline] at h
      cases h
      exact compiler_of_addLine_eq_error hline
    | ok next =>
      rw [hline] at h
      exact ih h

lemma get?_entries_iff {first : Text} {front : Nat} {found : List (List Text)} (h : (found.map (·[1]?)).Nodup)
    {bound : Text} :
    Table.get? (found.filterMap (binding? first front)) name = some bound ↔
      ∃ words ∈ found, Binds first front words name bound := by
  have hpairwise : (found.filterMap (binding? first front)).Pairwise fun entry later => entry.1 ≠ later.1 := by
    refine List.Pairwise.filterMap _ ?_ (List.pairwise_map.mp h)
    intro words later hne entry hentry entry' hentry' hsame
    rw [(binding?_eq_some_iff.mp hentry).name, (binding?_eq_some_iff.mp hentry').name, hsame] at hne
    exact hne rfl
  rw [Table.get?_eq_some_iff hpairwise, List.mem_filterMap]
  simp only [binding?_eq_some_iff]

end World.Definitions

namespace Proofs
open World

/-- Compiling succeeds exactly if every line that has words, and is no line of extensions, defines a procedure or a
reporter, each under another name. The world then has these and no others. A source is turned down with an error of the
compiler, and the world stays as it is. Neither turtles nor globals change. -/
theorem compile_grammar (source : Text) (w : World) :
    ((compile source w).1 = .ok () ↔
        (∀ words ∈ definitionLines source.lines, IsDefinition words) ∧
          ((definitionLines source.lines).map (·[1]?)).Nodup) ∧
      ((compile source w).1 = .ok () → ∀ name body,
        ((compile source w).2.procedures.get? name = some body ↔
          ∃ words ∈ definitionLines source.lines, Binds "to".toList 2 words name body) ∧
        ((compile source w).2.reporters.get? name = some body ↔
          ∃ words ∈ definitionLines source.lines, Binds "to-report".toList 3 words name body)) ∧
      ((compile source w).1 ≠ .ok () →
        (∃ message, (compile source w).1 = .error (.compiler message)) ∧ (compile source w).2 = w) ∧
      (compile source w).2.turtles = w.turtles ∧ (compile source w).2.globals = w.globals := by
  unfold compile
  cases h : Definitions.ofSource source with
  | error fault =>
    have hgrammar : ¬ ((∀ words ∈ definitionLines source.lines, IsDefinition words) ∧
        ((definitionLines source.lines).map (·[1]?)).Nodup) := by
      intro hgrammar
      rw [Definitions.ofSource_eq_ok_iff.mpr ⟨hgrammar, rfl⟩] at h
      cases h
    obtain ⟨message, rfl⟩ := Definitions.compiler_of_addLines_eq_error h
    exact ⟨iff_of_false nofun hgrammar, nofun, fun _ => ⟨⟨message, rfl⟩, rfl⟩, rfl, rfl⟩
  | ok ds =>
    obtain ⟨hgrammar, rfl⟩ := Definitions.ofSource_eq_ok_iff.mp h
    refine ⟨iff_of_true rfl hgrammar, fun _ name body => ?_, fun hne => absurd rfl hne, rfl, rfl⟩
    exact ⟨Definitions.get?_entries_iff hgrammar.2, Definitions.get?_entries_iff hgrammar.2⟩

end Proofs

end SuiteRunner
