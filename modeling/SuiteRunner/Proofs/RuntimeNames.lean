import SuiteRunner.Config.Factory
import SuiteRunner.Config.Schema
import SuiteRunner.Proofs.Words

/-!
# Versions and names of runtimes

The forms that the schema demands of a version and of the name of a runtime, said without the schema. What has the form
of a runtime is cut at its only colon, so that it is never refused for its form when the runtime is looked up.
-/

universe u

namespace SuiteRunner.Proofs
open Config

/-- Digits of any script, at least one. -/
def IsNumeral (t : Text) : Prop :=
  t ≠ [] ∧ ∀ c ∈ t, isDecimalDigit c = true

/-- A letter of ASCII or an underscore, and then characters of the class. -/
def IsNameOf (inside : Char → Prop) (t : Text) : Prop :=
  ∃ c rest, t = c :: rest ∧ isNameStart c = true ∧ ∀ d ∈ rest, inside d

/-- The name of a module, in which dots may stand. -/
def IsModuleName (t : Text) : Prop :=
  IsNameOf (fun c => isWordCharacter c = true ∨ c = '.') t

def IsMemberName (t : Text) : Prop :=
  IsNameOf (fun c => isWordCharacter c = true) t

/-- The text is of the first kind up to the mark and of the second kind behind it; a line feed may follow. -/
def IsCutInto (mark : Char) (p q : Text → Prop) (t : Text) : Prop :=
  ∃ a b ending, t = a ++ mark :: b ++ ending ∧ p a ∧ q b ∧ (ending = [] ∨ ending = ['\n'])

/-- Digits on either side of a full stop. -/
def IsVersionText (t : Text) : Prop :=
  IsCutInto '.' IsNumeral IsNumeral t

/-- A module, a colon and a member. -/
def IsRuntimeText (t : Text) : Prop :=
  IsCutInto ':' IsModuleName IsMemberName t

section Cutting

variable {mark : Char} {t : Text}

lemma dropFinalNewline_cases (t : Text) : t = t.dropFinalNewline ∨ t = t.dropFinalNewline ++ ['\n'] := by
  unfold Text.dropFinalNewline
  split_ifs with hlast
  · obtain ⟨front, rfl⟩ := List.getLast?_eq_some_iff.mp hlast
    right
    simp
  · exact .inl rfl

lemma dropFinalNewline_append {ending : Text} (hnone : '\n' ∉ t) (hending : ending = [] ∨ ending = ['\n']) :
    (t ++ ending).dropFinalNewline = t := by
  rcases hending with rfl | rfl
  · have hlast : t.getLast? ≠ some '\n' := fun hlast => hnone (List.mem_of_getLast? hlast)
    rw [List.append_nil, Text.dropFinalNewline, if_neg hlast]
  · simp [Text.dropFinalNewline]

lemma isCutInto_iff {p q : Text → Prop} (hp : ∀ a, p a → mark ∉ a ∧ '\n' ∉ a) (hq : ∀ b, q b → '\n' ∉ b)
    (hmark : mark ≠ '\n') :
    IsCutInto mark p q t ↔ mark ∈ t.dropFinalNewline ∧ p (t.dropFinalNewline.cutAt mark).1 ∧
      q (t.dropFinalNewline.cutAt mark).2 := by
  constructor
  · rintro ⟨a, b, ending, rfl, ha, hb, hending⟩
    have hnone : '\n' ∉ a ++ mark :: b := by simp [(hp a ha).2, hq b hb, hmark.symm]
    rw [dropFinalNewline_append hnone hending, cutAt_append_cons (hp a ha).1]
    exact ⟨by simp, ha, hb⟩
  · rintro ⟨hmem, hfirst, hsecond⟩
    have hcut := cutAt_of_mem hmem
    rcases dropFinalNewline_cases t with ht | ht
    · refine ⟨_, _, [], ?_, hfirst, hsecond, .inl rfl⟩
      rw [List.append_nil, ← hcut]
      exact ht
    · refine ⟨_, _, ['\n'], ?_, hfirst, hsecond, .inr rfl⟩
      rw [← hcut]
      exact ht

end Cutting

section Forms

variable {t : Text}

lemma isDigits_eq_true_iff : isDigits t = true ↔ IsNumeral t := by
  simp [isDigits, IsNumeral]

lemma isNameOf_eq_true_iff {inside : Char → Bool} :
    isNameOf inside t = true ↔ IsNameOf (fun c => inside c = true) t := by
  cases t with
  | nil => simp [isNameOf, IsNameOf]
  | cons c rest => simp [isNameOf, IsNameOf, and_assoc]

lemma IsNameOf.not_mem {inside : Char → Prop} (h : IsNameOf inside t) {c : Char} (hstart : isNameStart c = false)
    (hinside : ¬ inside c) : c ∉ t := by
  obtain ⟨first, rest, rfl, hfirst, hrest⟩ := h
  rw [List.mem_cons]
  rintro (rfl | hmem)
  · exact absurd hfirst (by simp [hstart])
  · exact hinside (hrest c hmem)

lemma IsNumeral.not_mem (h : IsNumeral t) {c : Char} (hc : isDecimalDigit c = false) : c ∉ t := by
  intro hmem
  exact absurd (h.2 c hmem) (by simp [hc])

lemma newline_isWordCharacter : isWordCharacter '\n' = false := by
  decide +kernel

lemma colon_isWordCharacter : isWordCharacter ':' = false := by
  decide +kernel

lemma IsModuleName.not_mem (h : IsModuleName t) : ':' ∉ t ∧ '\n' ∉ t :=
  ⟨IsNameOf.not_mem h (by decide) (by simp [colon_isWordCharacter]),
    IsNameOf.not_mem h (by decide) (by simp [newline_isWordCharacter])⟩

lemma IsMemberName.not_mem (h : IsMemberName t) : ':' ∉ t ∧ '\n' ∉ t :=
  ⟨IsNameOf.not_mem h (by decide) (by simp [colon_isWordCharacter]),
    IsNameOf.not_mem h (by decide) (by simp [newline_isWordCharacter])⟩

lemma isVersionText_iff : IsVersionText t ↔ isVersion t.dropFinalNewline = true := by
  have hdot : isDecimalDigit '.' = false := by decide
  have hnewline : isDecimalDigit '\n' = false := by decide
  rw [IsVersionText, isCutInto_iff (fun a ha => ⟨ha.not_mem hdot, ha.not_mem hnewline⟩)
    (fun b hb => hb.not_mem hnewline) (by decide)]
  simp [isVersion, isDigits_eq_true_iff, and_assoc]

lemma isRuntimeText_iff : IsRuntimeText t ↔ isRuntimeName t.dropFinalNewline = true := by
  rw [IsRuntimeText, isCutInto_iff (fun a ha => IsModuleName.not_mem ha) (fun b hb => (IsMemberName.not_mem hb).2)
    (by decide)]
  simp [isRuntimeName, isNameOf_eq_true_iff, IsModuleName, IsMemberName, and_assoc]

end Forms

section Resolving

variable {t : Text}

lemma IsNameOf.ne_nil {inside : Char → Prop} (h : IsNameOf inside t) : t ≠ [] := by
  obtain ⟨c, rest, rfl, -⟩ := h
  exact List.cons_ne_nil c rest

lemma IsRuntimeText.cut (h : IsRuntimeText t) :
    ∃ moduleName member, t = moduleName ++ ':' :: member ∧ t.cutAt ':' = (moduleName, member) ∧
      IsModuleName moduleName ∧ member ≠ [] ∧ ':' ∉ member := by
  obtain ⟨moduleName, member, ending, rfl, hmodule, hmember, hending⟩ := h
  have hcolon : ':' ∉ ending := by rcases hending with rfl | rfl <;> decide
  refine ⟨moduleName, member ++ ending, by simp, ?_, hmodule, ?_, ?_⟩
  · rw [List.append_assoc, List.cons_append, cutAt_append_cons hmodule.not_mem.1]
  · exact List.append_ne_nil_of_left_ne_nil hmember.ne_nil ending
  · rw [List.mem_append, not_or]
    exact ⟨hmember.not_mem.1, hcolon⟩

lemma IsRuntimeText.resolve_error {φ : Type u} {catalogue : Catalogue φ} {e : FactoryError} (h : IsRuntimeText t)
    (herror : catalogue.resolve t = .error e) :
    (∀ dotted, e ≠ .malformed dotted) ∧ ∀ moduleName, e ≠ .relative moduleName := by
  obtain ⟨moduleName, member, -, hcut, ⟨c, rest, rfl, hc, -⟩, hmember, -⟩ := h.cut
  have hdot : c ≠ '.' := by
    rintro rfl
    exact absurd hc (by decide)
  have hempty : ¬ ((c :: rest).isEmpty || member.isEmpty) = true := by simpa using hmember
  have hhead : ¬ (c :: rest).head? = some '.' := by simpa using hdot
  simp only [Catalogue.resolve, hcut, if_neg hempty, if_neg hhead] at herror
  split at herror
  · cases herror
    exact ⟨nofun, nofun⟩
  · cases herror
    exact ⟨nofun, nofun⟩
  · split at herror
    · cases herror
      exact ⟨nofun, nofun⟩
    · split at herror
      · cases herror
        exact ⟨nofun, nofun⟩
      · cases herror

end Resolving

end SuiteRunner.Proofs
