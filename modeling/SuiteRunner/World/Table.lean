import SuiteRunner.Text.Basic

/-!
Tables from names to values, in the order in which the names were first put in.
-/

namespace SuiteRunner

abbrev Table (α : Type) := List (Text × α)

namespace Table

variable {α : Type}

def get? (table : Table α) (name : Text) : Option α :=
  table.lookup name

def has (table : Table α) (name : Text) : Bool :=
  (table.get? name).isSome

/-- Gives the name a value, in its old place if it has one. -/
def put (name : Text) (value : α) : Table α → Table α
  | [] => [(name, value)]
  | entry :: rest => if entry.1 = name then (name, value) :: rest else entry :: put name value rest

theorem get?_put_self (name : Text) (value : α) (table : Table α) :
    (put name value table).get? name = some value := by
  induction table with
  | nil => simp [put, get?]
  | cons entry rest ih =>
    obtain ⟨key, old⟩ := entry
    by_cases h : key = name
    · simp [put, get?, h]
    · have h' : (name == key) = false := by simpa using fun e => h e.symm
      simpa [put, get?, h, List.lookup_cons, h'] using ih

theorem get?_put_of_ne {name other : Text} (h : other ≠ name) (value : α) (table : Table α) :
    (put name value table).get? other = table.get? other := by
  induction table with
  | nil =>
    have h' : (other == name) = false := by simpa using h
    simp [put, get?, List.lookup_cons, h']
  | cons entry rest ih =>
    obtain ⟨key, old⟩ := entry
    by_cases hk : key = name
    · subst hk
      have h' : (other == key) = false := by simpa using h
      simp [put, get?, List.lookup_cons, h']
    · by_cases ho : other = key
      · simp [put, get?, hk, ho]
      · have h' : (other == key) = false := by simpa using ho
        simpa [put, get?, hk, List.lookup_cons, h'] using ih

theorem has_put_self (name : Text) (value : α) (table : Table α) : (put name value table).has name = true := by
  rw [has, get?_put_self]
  rfl

theorem has_put_of_ne {name other : Text} (h : other ≠ name) (value : α) (table : Table α) :
    (put name value table).has other = table.has other := by
  rw [has, has, get?_put_of_ne h]

theorem mem_put {name : Text} {value : α} {table : Table α} {entry : Text × α} (h : entry ∈ put name value table) :
    entry = (name, value) ∨ entry ∈ table := by
  induction table with
  | nil => exact .inl (List.mem_singleton.mp h)
  | cons first table ih =>
    rw [put] at h
    split at h
    · rcases List.mem_cons.mp h with rfl | hmem
      · exact .inl rfl
      · exact .inr (List.mem_cons_of_mem first hmem)
    · rcases List.mem_cons.mp h with rfl | hmem
      · exact .inr List.mem_cons_self
      · exact (ih hmem).imp id (List.mem_cons_of_mem first)

theorem mem_of_get? {name : Text} {value : α} {table : Table α} (h : table.get? name = some value) :
    (name, value) ∈ table := by
  induction table with
  | nil => cases h
  | cons entry table ih =>
    obtain ⟨key, old⟩ := entry
    rw [get?, List.lookup_cons] at h
    by_cases hkey : (name == key) = true
    · simp only [hkey] at h
      rw [Option.some.inj h, eq_of_beq hkey]
      exact List.mem_cons_self
    · simp only [hkey] at h
      exact List.mem_cons_of_mem _ (ih h)

/-- A new name is put at the end. -/
theorem put_of_has_eq_false {name : Text} {table : Table α} (h : table.has name = false) (value : α) :
    table.put name value = table ++ [(name, value)] := by
  induction table with
  | nil => rfl
  | cons entry table ih =>
    obtain ⟨key, old⟩ := entry
    by_cases hkey : key = name
    · simp [has, get?, hkey] at h
    · have hbeq : (name == key) = false := by simpa using fun e => hkey e.symm
      have hrest : has table name = false := by simpa [has, get?, List.lookup_cons, hbeq] using h
      rw [put, if_neg hkey, ih hrest, List.cons_append]

theorem has_append_singleton {name : Text} {value : α} {table : Table α} (other : Text) :
    has (table ++ [(name, value)]) other = (table.has other || other == name) := by
  simp only [has, get?, List.lookup_append]
  cases table.lookup other with
  | some old => simp
  | none => cases h : other == name <;> simp [List.lookup_cons, h]

/-- A table without a name twice maps a name to a value exactly if it has the entry. -/
theorem get?_eq_some_iff {name : Text} {value : α} {table : Table α}
    (h : table.Pairwise fun entry later => entry.1 ≠ later.1) :
    table.get? name = some value ↔ (name, value) ∈ table := by
  refine ⟨mem_of_get?, fun hmem => ?_⟩
  induction table with
  | nil => cases hmem
  | cons entry table ih =>
    obtain ⟨hentry, hrest⟩ := List.pairwise_cons.mp h
    rcases List.mem_cons.mp hmem with rfl | hlater
    · simp [get?]
    · have hbeq : (name == entry.1) = false := by simpa using (hentry _ hlater).symm
      have hget := ih hrest hlater
      rw [get?] at hget ⊢
      rw [List.lookup_cons, hbeq]
      exact hget

end Table

end SuiteRunner
