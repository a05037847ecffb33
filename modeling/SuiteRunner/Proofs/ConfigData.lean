import Mathlib.Data.List.Basic
import Mathlib.Data.List.Forall2
import Mathlib.Tactic.Common
import SuiteRunner.Config.Basic
import SuiteRunner.Proofs.SchemaMeaning

/-!
# Data that satisfy the schema

What the schema demands is said here without it. Data satisfy it exactly if they are a map of this form, and then a
configuration with all its parts is made of them.
-/

namespace SuiteRunner.Proofs

/-- The data are a map without other keys than these names. -/
def IsMapOf (names : List Text) (data : Data) : Prop :=
  ∃ fields, data = .map fields ∧ ∀ field ∈ fields, ∃ name ∈ names, field.1 = .text name

def HasText (data : Data) (name t : Text) : Prop :=
  data.field? name = some (.scalar (.text t))

/-- The flag has this value, by default if it is missing. -/
def HasFlag (data : Data) (name : Text) (default b : Bool) : Prop :=
  data.field? name = some (.scalar (.bool b)) ∨ data.field? name = none ∧ b = default

/-- The data describe the environment. -/
structure IsEnvironmentData (data : Data) (env : Environment) : Prop where
  keys : IsMapOf ["is_3d".toList, "uses_code_generator".toList] data
  is3D : HasFlag data "is_3d".toList false env.is3D
  usesGenerator : HasFlag data "uses_code_generator".toList true env.usesGenerator

/-- The data describe a suite by its finder and its directory. -/
structure IsSuiteData (data : Data) (finder : Finder) (directory : Text) : Prop where
  keys : IsMapOf ["finder".toList, "path".toList] data
  hasFinder : HasText data "finder".toList finder.name
  hasDirectory : HasText data "path".toList directory
  nonempty : directory ≠ []

/-- The data are a list whose items describe the suites, of which there is at least one. -/
def IsSuiteList (data : Data) (suites : List (Finder × Text)) : Prop :=
  ∃ items, data = .list items ∧ items ≠ [] ∧
    List.Forall₂ (fun item suite => IsSuiteData item suite.1 suite.2) items suites

/-- The data describe the environment under its name, by default the default one. -/
def HasEnvironment (data : Data) (env : Environment) : Prop :=
  (data.field? "environment".toList = none ∧ env = {}) ∨
    ∃ described, data.field? "environment".toList = some described ∧ IsEnvironmentData described env

/-- The data describe a configuration, in which the directories are still those of the data. -/
structure IsConfigData (data : Data) (version runtime : Text) (env : Environment) (suites : List (Finder × Text)) :
    Prop where
  keys : IsMapOf ["version".toList, "runtime".toList, "environment".toList, "suites".toList] data
  hasVersion : HasText data "version".toList version
  isVersion : Config.isVersion version.dropFinalNewline = true
  hasRuntime : HasText data "runtime".toList runtime
  isRuntimeName : Config.isRuntimeName runtime.dropFinalNewline = true
  environment : HasEnvironment data env
  suites : ∃ listed, data.field? "suites".toList = some listed ∧ IsSuiteList listed suites

section Kinds

variable {data : Data}

lemma holds_object_iff : DataKind.object.holds data = true ↔ ∃ fields, data = .map fields := by
  cases data <;> simp [DataKind.holds]

lemma holds_array_iff : DataKind.array.holds data = true ↔ ∃ items, data = .list items := by
  cases data <;> simp [DataKind.holds]

lemma holds_string_iff : DataKind.string.holds data = true ↔ ∃ t, data = .scalar (.text t) := by
  rcases data with s | items | fields
  · cases s <;> simp [DataKind.holds]
  · simp [DataKind.holds]
  · simp [DataKind.holds]

lemma holds_boolean_iff : DataKind.boolean.holds data = true ↔ ∃ b, data = .scalar (.bool b) := by
  rcases data with s | items | fields
  · cases s <;> simp [DataKind.holds]
  · simp [DataKind.holds]
  · simp [DataKind.holds]

lemma isMapOf_iff {names : List Text} :
    IsMapOf names data ↔ DataKind.object.holds data = true ∧
      ∀ fields, data = .map fields → ∀ field ∈ fields, ∃ name ∈ names, field.1 = .text name := by
  rw [holds_object_iff]
  constructor
  · rintro ⟨fields, rfl, hkeys⟩
    exact ⟨⟨fields, rfl⟩, fun _ h => by cases h; exact hkeys⟩
  · rintro ⟨⟨fields, rfl⟩, hkeys⟩
    exact ⟨fields, rfl, hkeys fields rfl⟩

end Kinds

section Fields

variable {data : Data} {name : Text} {default b : Bool}

lemma forall_field_iff {value : Data} {p : Data → Prop} (h : data.field? name = some value) :
    (∀ found, data.field? name = some found → p found) ↔ p value := by
  rw [h]
  simp

lemma HasText.text? {t : Text} (h : HasText data name t) : (data.field? name).bind Data.text? = some t := by
  rw [HasText] at h
  rw [h]
  rfl

lemma exists_hasText_iff {p : Text → Prop} :
    (∃ t, HasText data name t ∧ p t) ↔ (∃ value, data.field? name = some value) ∧
      ∀ value, data.field? name = some value → ∃ t, value = .scalar (.text t) ∧ p t := by
  constructor
  · rintro ⟨t, h, ht⟩
    exact ⟨⟨_, h⟩, (forall_field_iff h).mpr ⟨t, rfl, ht⟩⟩
  · rintro ⟨⟨value, h⟩, htext⟩
    obtain ⟨t, rfl, ht⟩ := htext value h
    exact ⟨t, h, ht⟩

lemma HasFlag.value (h : HasFlag data name default b) : ((data.field? name).map Data.isTrue).getD default = b := by
  rcases h with hfield | ⟨hfield, rfl⟩
  · rw [hfield]
    rfl
  · rw [hfield]
    rfl

lemma exists_hasFlag_iff (default : Bool) :
    (∃ b, HasFlag data name default b) ↔
      ∀ value, data.field? name = some value → DataKind.boolean.holds value = true := by
  constructor
  · rintro ⟨b, hfield | ⟨hfield, -⟩⟩
    · exact (forall_field_iff hfield).mpr rfl
    · rw [hfield]
      exact nofun
  · intro h
    cases hfield : data.field? name with
    | none => exact ⟨default, .inr ⟨hfield, rfl⟩⟩
    | some value =>
      obtain ⟨b, rfl⟩ := holds_boolean_iff.mp (h value hfield)
      exact ⟨b, .inl hfield⟩

end Fields

section Parts

variable {data : Data}

lemma patternText_iff {pattern : Pattern} :
    (DataKind.string.holds data = true ∧ ∀ t, data = .scalar (.text t) → pattern.holds t = true) ↔
      ∃ t, data = .scalar (.text t) ∧ pattern.holds t = true := by
  rw [holds_string_iff]
  constructor
  · rintro ⟨⟨t, rfl⟩, hpattern⟩
    exact ⟨t, rfl, hpattern t rfl⟩
  · rintro ⟨t, rfl, hpattern⟩
    exact ⟨⟨t, rfl⟩, fun _ h => by cases h; exact hpattern⟩

lemma nonemptyText_iff :
    DataKind.string.holds data = true ∧ (DataKind.string.holds data = true → data.isTrue = true) ↔
      ∃ t, data = .scalar (.text t) ∧ t ≠ [] := by
  rw [holds_string_iff]
  constructor
  · rintro ⟨⟨t, rfl⟩, htrue⟩
    exact ⟨t, rfl, by simpa [Data.isTrue] using htrue ⟨t, rfl⟩⟩
  · rintro ⟨t, rfl, hne⟩
    exact ⟨⟨t, rfl⟩, fun _ => by simpa [Data.isTrue] using hne⟩

lemma finderName_iff :
    (∃ t ∈ [Finder.inDirectory.name, Finder.below.name], data = .scalar (.text t)) ↔
      ∃ t, data = .scalar (.text t) ∧ ∃ finder : Finder, t = finder.name := by
  constructor
  · rintro ⟨t, ht, rfl⟩
    rcases List.mem_cons.mp ht with rfl | ht
    · exact ⟨_, rfl, .inDirectory, rfl⟩
    · exact ⟨_, rfl, .below, List.mem_singleton.mp ht⟩
  · rintro ⟨_, rfl, finder, rfl⟩
    refine ⟨finder.name, ?_, rfl⟩
    cases finder <;> simp

lemma satisfies_environmentSchema_iff :
    Satisfies Config.environmentSchema data ↔ ∃ env, IsEnvironmentData data env := by
  simp only [Config.environmentSchema, Satisfies, IsMet, ArePropertiesMet, and_true]
  constructor
  · rintro ⟨hmap, hclosed, his3D, hgenerator⟩
    obtain ⟨is3D, his3D⟩ := (exists_hasFlag_iff false).mpr his3D
    obtain ⟨usesGenerator, hgenerator⟩ := (exists_hasFlag_iff true).mpr hgenerator
    exact ⟨⟨is3D, usesGenerator⟩, isMapOf_iff.mpr ⟨hmap, hclosed⟩, his3D, hgenerator⟩
  · rintro ⟨env, hkeys, his3D, hgenerator⟩
    obtain ⟨hmap, hclosed⟩ := isMapOf_iff.mp hkeys
    exact ⟨hmap, hclosed, (exists_hasFlag_iff false).mp ⟨_, his3D⟩, (exists_hasFlag_iff true).mp ⟨_, hgenerator⟩⟩

lemma satisfies_suiteSchema_iff :
    Satisfies Config.suiteSchema data ↔ ∃ finder directory, IsSuiteData data finder directory := by
  simp only [Config.suiteSchema, Satisfies, IsMet, ArePropertiesMet, and_true, finderName_iff, nonemptyText_iff]
  constructor
  · rintro ⟨hmap, hrequired, hclosed, hfinder, hpath⟩
    obtain ⟨fields, rfl⟩ := holds_object_iff.mp hmap
    have hhas := hrequired fields rfl
    simp only [List.forall_mem_cons] at hhas
    obtain ⟨hhasFinder, hhasPath, -⟩ := hhas
    obtain ⟨_, hfinder, finder, rfl⟩ := exists_hasText_iff.mpr ⟨hhasFinder, hfinder⟩
    obtain ⟨directory, hdirectory, hne⟩ := exists_hasText_iff.mpr ⟨hhasPath, hpath⟩
    exact ⟨finder, directory, isMapOf_iff.mpr ⟨hmap, hclosed⟩, hfinder, hdirectory, hne⟩
  · rintro ⟨finder, directory, hkeys, hfinder, hdirectory, hne⟩
    obtain ⟨hmap, hclosed⟩ := isMapOf_iff.mp hkeys
    refine ⟨hmap, fun _ _ => ?_, hclosed, (exists_hasText_iff.mp ⟨_, hfinder, finder, rfl⟩).2,
      (exists_hasText_iff.mp ⟨_, hdirectory, hne⟩).2⟩
    simp only [List.forall_mem_cons]
    exact ⟨⟨_, hfinder⟩, ⟨_, hdirectory⟩, nofun⟩

lemma exists_hasEnvironment_iff :
    (∃ env, HasEnvironment data env) ↔
      ∀ value, data.field? "environment".toList = some value → ∃ env, IsEnvironmentData value env := by
  constructor
  · rintro ⟨env, ⟨hfield, -⟩ | ⟨described, hfield, henv⟩⟩
    · rw [hfield]
      exact nofun
    · exact (forall_field_iff hfield).mpr ⟨env, henv⟩
  · intro h
    cases hfield : data.field? "environment".toList with
    | none => exact ⟨{}, .inl ⟨hfield, rfl⟩⟩
    | some described =>
      obtain ⟨env, henv⟩ := h described hfield
      exact ⟨env, .inr ⟨described, hfield, henv⟩⟩

lemma exists_forall₂_iff {α β : Type} {R : α → β → Prop} {as : List α} :
    (∃ bs, List.Forall₂ R as bs) ↔ ∀ a ∈ as, ∃ b, R a b := by
  induction as with
  | nil => exact ⟨fun _ => nofun, fun _ => ⟨[], .nil⟩⟩
  | cons a as ih =>
    rw [List.forall_mem_cons, ← ih]
    constructor
    · rintro ⟨bs, hbs⟩
      cases hbs with
      | cons h hrest => exact ⟨⟨_, h⟩, _, hrest⟩
    · rintro ⟨⟨b, h⟩, bs, hrest⟩
      exact ⟨b :: bs, .cons h hrest⟩

lemma exists_isSuiteList_iff :
    (∃ suites, IsSuiteList data suites) ↔ DataKind.array.holds data = true ∧
      (DataKind.array.holds data = true → data.isTrue = true) ∧
        ∀ items, data = .list items → ∀ item ∈ items, Satisfies Config.suiteSchema item := by
  have hitems (items : List Data) : (∀ item ∈ items, Satisfies Config.suiteSchema item) ↔
      ∃ suites : List (Finder × Text),
        List.Forall₂ (fun item suite => IsSuiteData item suite.1 suite.2) items suites := by
    simp only [satisfies_suiteSchema_iff, exists_forall₂_iff, Prod.exists]
  rw [holds_array_iff]
  constructor
  · rintro ⟨suites, items, rfl, hne, hsuites⟩
    exact ⟨⟨items, rfl⟩, fun _ => by simpa [Data.isTrue] using hne,
      fun _ h => by cases h; exact (hitems items).mpr ⟨suites, hsuites⟩⟩
  · rintro ⟨⟨items, rfl⟩, htrue, hall⟩
    obtain ⟨suites, hsuites⟩ := (hitems items).mp (hall items rfl)
    exact ⟨suites, items, rfl, by simpa [Data.isTrue] using htrue ⟨items, rfl⟩, hsuites⟩

/-- Exactly the data of this form satisfy the schema. -/
theorem satisfies_schema_iff :
    Satisfies Config.schema data ↔ ∃ version runtime env suites, IsConfigData data version runtime env suites := by
  simp only [Config.schema, Satisfies, IsMet, ArePropertiesMet, satisfies_environmentSchema_iff, and_true,
    patternText_iff, ← exists_hasEnvironment_iff, ← exists_isSuiteList_iff]
  constructor
  · rintro ⟨hmap, hrequired, hclosed, hversion, hruntime, ⟨env, henv⟩, hsuites⟩
    obtain ⟨fields, rfl⟩ := holds_object_iff.mp hmap
    have hhas := hrequired fields rfl
    simp only [List.forall_mem_cons] at hhas
    obtain ⟨hhasVersion, hhasRuntime, ⟨listed, hlisted⟩, -⟩ := hhas
    obtain ⟨version, hversion, hisVersion⟩ := exists_hasText_iff.mpr ⟨hhasVersion, hversion⟩
    obtain ⟨runtime, hruntime, hisName⟩ := exists_hasText_iff.mpr ⟨hhasRuntime, hruntime⟩
    obtain ⟨suites, hsuites⟩ := hsuites listed hlisted
    exact ⟨version, runtime, env, suites, isMapOf_iff.mpr ⟨hmap, hclosed⟩, hversion, hisVersion, hruntime, hisName,
      henv, listed, hlisted, hsuites⟩
  · rintro ⟨version, runtime, env, suites, hkeys, hversion, hisVersion, hruntime, hisName, henv, listed, hlisted,
      hsuites⟩
    obtain ⟨hmap, hclosed⟩ := isMapOf_iff.mp hkeys
    refine ⟨hmap, fun _ _ => ?_, hclosed, (exists_hasText_iff.mp ⟨_, hversion, hisVersion⟩).2,
      (exists_hasText_iff.mp ⟨_, hruntime, hisName⟩).2, ⟨env, henv⟩, ?_⟩
    · simp only [List.forall_mem_cons]
      exact ⟨⟨_, hversion⟩, ⟨_, hruntime⟩, ⟨_, hlisted⟩, nofun⟩
    · exact (forall_field_iff hlisted).mpr ⟨suites, hsuites⟩

end Parts

section Made

variable {data : Data} {base : Path}

lemma environmentOfData_eq {env : Environment} (h : IsEnvironmentData data env) :
    Environment.ofData data = .ok env := by
  obtain ⟨⟨fields, rfl, -⟩, his3D, hgenerator⟩ := h
  cases fields with
  | nil =>
    -- an empty map counts as no data, which both flags have to agree with
    have hfalse : env.is3D = false := his3D.value.symm
    have htrue : env.usesGenerator = true := hgenerator.value.symm
    have henv : env = {} := by cases env; simp_all
    rw [henv]
    rfl
  | cons field fields =>
    rw [Environment.ofData, if_neg (by simp [Data.isTrue])]
    simp only [his3D.value, hgenerator.value]

lemma suiteOfData?_eq {finder : Finder} {directory : Text} (h : IsSuiteData data finder directory) :
    Config.suiteOfData? base data = some ⟨finder, base.join (Path.ofText directory)⟩ := by
  have hname : Finder.ofName? finder.name = some finder := by cases finder <;> rfl
  rw [Config.suiteOfData?, h.hasFinder.text?, h.hasDirectory.text?, Option.bind_some, hname]
  rfl

lemma mapM_suiteOfData?_eq {items : List Data} {suites : List (Finder × Text)}
    (h : List.Forall₂ (fun item suite => IsSuiteData item suite.1 suite.2) items suites) :
    items.mapM (Config.suiteOfData? base) =
      some (suites.map fun suite => ⟨suite.1, base.join (Path.ofText suite.2)⟩) := by
  induction h with
  | nil => rfl
  | cons hitem _ ih =>
    rw [List.mapM_cons, suiteOfData?_eq hitem, ih]
    rfl

lemma HasEnvironment.ofData_eq {env : Environment} (h : HasEnvironment data env) :
    Environment.ofData ((data.field? "environment".toList).getD .null) = .ok env := by
  rcases h with ⟨hnone, rfl⟩ | ⟨described, hdescribed, henv⟩
  · rw [hnone]
    rfl
  · rw [hdescribed]
    exact environmentOfData_eq henv

/-- All parts of a configuration can be had from data of this form. -/
theorem parts?_eq {version runtime : Text} {env : Environment} {suites : List (Finder × Text)}
    (h : IsConfigData data version runtime env suites) :
    Config.parts? base data =
      some ⟨version, runtime, env, suites.map fun suite => ⟨suite.1, base.join (Path.ofText suite.2)⟩⟩ := by
  obtain ⟨_, hlisted, items, rfl, -, hsuites⟩ := h.suites
  rw [Config.parts?, h.hasVersion.text?, h.hasRuntime.text?, hlisted, h.environment.ofData_eq]
  simp only [Option.bind_eq_bind, Option.bind_some, mapM_suiteOfData?_eq hsuites]
  rfl

end Made

end SuiteRunner.Proofs
