import Mathlib.Data.List.Basic
import Mathlib.Tactic.Common
import SuiteRunner.Config.Tools
import SuiteRunner.Data.Validation

/-!
# What schemas mean

Data satisfy a schema if they meet every demand in it. A validator is right about a schema if it finds nothing wrong
exactly with the data that satisfy it; one that goes through the demands is right about every schema.
-/

namespace SuiteRunner.Proofs

mutual

/-- The data meet the demand. -/
def IsMet : Demand → Data → Prop
  | .kind kind, data => kind.holds data = true
  | .pattern pattern, data => ∀ t, data = .scalar (.text t) → pattern.holds t = true
  | .nonempty kind, data => kind.holds data = true → data.isTrue = true
  | .oneOf values, data => ∃ t ∈ values, data = .scalar (.text t)
  | .required names, data => ∀ fields, data = .map fields → ∀ name ∈ names, ∃ value, data.field? name = some value
  | .closed names, data => ∀ fields, data = .map fields → ∀ field ∈ fields, ∃ name ∈ names, field.1 = .text name
  | .properties properties, data => ArePropertiesMet properties data
  | .items demands, data => ∀ items, data = .list items → ∀ item ∈ items, Satisfies demands item

/-- The data meet all demands. -/
def Satisfies : List Demand → Data → Prop
  | [], _ => True
  | demand :: rest, data => IsMet demand data ∧ Satisfies rest data

/-- The values that are there under the names meet what is demanded of them. -/
def ArePropertiesMet : List (Text × List Demand) → Data → Prop
  | [], _ => True
  | (name, demands) :: rest, data =>
    (∀ value, data.field? name = some value → Satisfies demands value) ∧ ArePropertiesMet rest data

end

/-- The validator finds nothing wrong exactly with the data that satisfy the schema. On other data it finds something
or gives no answer. -/
def Validates (validator : Config.Validator) (schema : Schema) : Prop :=
  ∀ data, validator schema data = .ok [] ↔ Satisfies schema data

section Violations

variable {data : Data}

lemma violationIf_eq_ok_nil_iff {violated : Bool} {message : Except Fault Text} :
    violationIf violated message = .ok [] ↔ violated = false := by
  cases violated <;> cases message <;> simp [violationIf, Except.map]

lemma inBoth_eq_ok_nil_iff {first others : Except Fault (List Violation)} :
    inBoth first others = .ok [] ↔ first = .ok [] ∧ others = .ok [] := by
  cases first <;> cases others <;> simp [inBoth, Except.bind, Except.map]

lemma foldr_inBoth_eq_ok_nil_iff {found : List (Except Fault (List Violation))} :
    found.foldr inBoth (.ok []) = .ok [] ↔ ∀ part ∈ found, part = .ok [] := by
  induction found with
  | nil => simp
  | cons part rest ih => rw [List.foldr_cons, inBoth_eq_ok_nil_iff, ih, List.forall_mem_cons]

lemma map_under_eq_ok_nil_iff {found : Except Fault (List Violation)} {step : DataStep} :
    found.map (List.map (Violation.under step)) = .ok [] ↔ found = .ok [] := by
  cases found <;> simp [Except.map]

lemma oneOf_iff {values : List Text} :
    (data.text?.any fun t => values.contains t) = true ↔ ∃ t ∈ values, data = .scalar (.text t) := by
  rw [Option.any_eq_true]
  constructor
  · rintro ⟨t, ht, hmem⟩
    unfold Data.text? at ht
    split at ht
    · cases ht
      exact ⟨t, by simpa using hmem, rfl⟩
    · cases ht
  · rintro ⟨t, hmem, rfl⟩
    exact ⟨t, rfl, by simpa using hmem⟩

lemma pattern_violations_eq_ok_nil_iff {pattern : Pattern} :
    (Demand.pattern pattern).violations data = .ok [] ↔ ∀ t, data = .scalar (.text t) → pattern.holds t = true := by
  rcases data with s | items | fields
  · cases s <;> simp [Demand.violations, violationIf_eq_ok_nil_iff]
  · simp [Demand.violations]
  · simp [Demand.violations]

lemma required_violations_eq_ok_nil_iff {names : List Text} :
    (Demand.required names).violations data = .ok [] ↔
      ∀ fields, data = .map fields → ∀ name ∈ names, ∃ value, data.field? name = some value := by
  cases data with
  | map fields =>
    simp [Demand.violations, Data.field?, Option.isSome_iff_exists, ← Option.not_isSome_iff_eq_none]
  | _ => simp [Demand.violations]

lemma closed_violations_eq_ok_nil_iff {names : List Text} :
    (Demand.closed names).violations data = .ok [] ↔
      ∀ fields, data = .map fields → ∀ field ∈ fields, ∃ name ∈ names, field.1 = .text name := by
  cases data with
  | map fields => simp [Demand.violations, violationIf_eq_ok_nil_iff]
  | _ => simp [Demand.violations]

lemma items_violations_eq_ok_nil_iff {demands : List Demand} :
    (Demand.items demands).violations data = .ok [] ↔
      ∀ items, data = .list items → ∀ item ∈ items, schemaViolations demands item = .ok [] := by
  cases data with
  | list items =>
    rw [Demand.violations, foldr_inBoth_eq_ok_nil_iff, List.forall_mem_map]
    simp only [map_under_eq_ok_nil_iff]
    constructor
    · rintro h _ ⟨⟩ item hitem
      obtain ⟨i, hi, rfl⟩ := List.mem_iff_getElem.mp hitem
      exact h (items[i], i) (by simp [List.mem_zipIdx_iff_getElem?, hi])
    · rintro h ⟨item, i⟩ hitem
      exact h items rfl item (List.fst_mem_of_mem_zipIdx hitem)
  | _ => simp [Demand.violations]

end Violations

mutual

lemma violations_eq_ok_nil_iff (demand : Demand) (data : Data) :
    demand.violations data = .ok [] ↔ IsMet demand data := by
  cases demand with
  | kind kind => rw [Demand.violations, IsMet, violationIf_eq_ok_nil_iff, Bool.not_eq_false']
  | pattern pattern => rw [pattern_violations_eq_ok_nil_iff, IsMet]
  | nonempty kind =>
    rw [Demand.violations, IsMet, violationIf_eq_ok_nil_iff]
    cases kind.holds data <;> simp
  | oneOf values => rw [Demand.violations, IsMet, violationIf_eq_ok_nil_iff, Bool.not_eq_false', oneOf_iff]
  | required names => rw [required_violations_eq_ok_nil_iff, IsMet]
  | closed names => rw [closed_violations_eq_ok_nil_iff, IsMet]
  | properties properties => rw [Demand.violations, IsMet, propertyViolations_eq_ok_nil_iff]
  | items demands =>
    rw [items_violations_eq_ok_nil_iff, IsMet]
    have hitem (item : Data) := schemaViolations_eq_ok_nil_iff demands item
    simp only [hitem]

lemma schemaViolations_eq_ok_nil_iff (schema : List Demand) (data : Data) :
    schemaViolations schema data = .ok [] ↔ Satisfies schema data := by
  cases schema with
  | nil => simp [schemaViolations, Satisfies]
  | cons demand rest =>
    rw [schemaViolations, Satisfies, inBoth_eq_ok_nil_iff, violations_eq_ok_nil_iff, schemaViolations_eq_ok_nil_iff]

lemma propertyViolations_eq_ok_nil_iff (properties : List (Text × List Demand)) (data : Data) :
    propertyViolations properties data = .ok [] ↔ ArePropertiesMet properties data := by
  cases properties with
  | nil => simp [propertyViolations, ArePropertiesMet]
  | cons property rest =>
    obtain ⟨name, demands⟩ := property
    rw [propertyViolations, ArePropertiesMet, inBoth_eq_ok_nil_iff, propertyViolations_eq_ok_nil_iff]
    apply and_congr_left'
    cases data.field? name with
    | none => simp
    | some value => simpa [map_under_eq_ok_nil_iff] using schemaViolations_eq_ok_nil_iff demands value

end

/-- Going through the demands finds nothing wrong exactly with the data that satisfy the schema. -/
theorem validates_schemaViolations (schema : Schema) : Validates schemaViolations schema :=
  schemaViolations_eq_ok_nil_iff schema

end SuiteRunner.Proofs
