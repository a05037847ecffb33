import SuiteRunner.Proofs.StatementCalls
import SuiteRunner.Run.Session

/-!
# The exchanges of a run

The statements of a test are performed one after the other on an engine whose state goes on from call to call. An
exchange is a statement's call with the answer to it; the first exchange that misbehaves is where the run stops.
-/

namespace SuiteRunner.Proofs

structure Exchange (σ : Type) where
  statement : Statement
  call : CallRecord
  answer : Except Fault Text
  /-- The state after the call. -/
  state : σ

def Exchange.Behaves {σ : Type} (e : Exchange σ) : Prop :=
  Proofs.Behaves (awaited e.statement) e.answer

def Exchange.Misbehaves {σ : Type} (e : Exchange σ) (fault : Fault) : Prop :=
  Proofs.Misbehaves (awaited e.statement) e.answer fault

section Exchanges

variable {σ : Type} (engine : Engine σ)

def exchange (sources : List Text) (statement : Statement) (s : σ) : Exchange σ where
  statement := statement
  call := callOf sources statement
  answer := (makeCall engine (callOf sources statement) s).1
  state := (makeCall engine (callOf sources statement) s).2

/-- The exchanges of the statements in front of the first object that is none, whatever comes of each. -/
def exchanges : List Text → List Element → σ → List (Exchange σ)
  | sources, some statement :: rest, s =>
    let e := exchange engine sources statement s
    e :: exchanges (sources ++ definitionSources [statement]) rest e.state
  | _, _, _ => []

/-- The state that the exchanges leave. -/
def stateAfter (s : σ) (made : List (Exchange σ)) : σ :=
  made.foldl (fun _ e => e.state) s

lemma addSource_eq (sources : List Text) (statement : Statement) :
    statement.addSource sources = sources ++ definitionSources [statement] := by
  cases statement with
  | definition source => rfl
  | _ => exact (List.append_nil sources).symm

lemma perform_of_behaves {sources : List Text} {statement : Statement} {s : σ}
    (h : (exchange engine sources statement s).Behaves) :
    engine.perform sources statement s = (.ok (), (exchange engine sources statement s).state) :=
  Prod.ext ((perform_isJudged engine sources statement s).eq_ok h) (perform_state engine sources statement s)

lemma perform_of_misbehaves {sources : List Text} {statement : Statement} {s : σ} {fault : Fault}
    (h : (exchange engine sources statement s).Misbehaves fault) :
    engine.perform sources statement s = (.error fault, (exchange engine sources statement s).state) :=
  Prod.ext ((perform_isJudged engine sources statement s).eq_error h) (perform_state engine sources statement s)

lemma exchanges_eq_cons {sources : List Text} {elements : List Element} {s : σ} {e : Exchange σ}
    {others : List (Exchange σ)} (h : exchanges engine sources elements s = e :: others) :
    ∃ statement rest, elements = some statement :: rest ∧ exchange engine sources statement s = e ∧
      exchanges engine (statement.addSource sources) rest e.state = others := by
  match elements with
  | [] => cases h
  | none :: rest => cases h
  | some statement :: rest =>
    rw [exchanges] at h
    injection h with he hothers
    subst he
    exact ⟨statement, rest, rfl, rfl, by rw [addSource_eq]; exact hothers⟩

lemma elements_of_exchanges {sources : List Text} {elements : List Element} {s : σ} {made after : List (Exchange σ)}
    (h : exchanges engine sources elements s = made ++ after) : (made.map (·.statement)).map some <+: elements := by
  induction made generalizing sources elements s with
  | nil => exact List.nil_prefix
  | cons e made ih =>
    obtain ⟨statement, rest, rfl, rfl, hrest⟩ := exchanges_eq_cons engine h
    exact (List.prefix_cons_inj _).mpr (ih hrest)

lemma elements_of_all_exchanges (sources : List Text) {elements : List Element} (s : σ) (h : none ∉ elements) :
    ((exchanges engine sources elements s).map (·.statement)).map some = elements := by
  induction elements generalizing sources s with
  | nil => rfl
  | cons element elements ih =>
    cases element with
    | none => exact absurd List.mem_cons_self h
    | some statement =>
      rw [exchanges]
      exact congrArg (_ :: ·) (ih _ _ fun hmem => h (List.mem_cons_of_mem _ hmem))

lemma performAll_of_misbehaves (fullName : Text) {before after : List (Exchange σ)} {e : Exchange σ}
    {fault : Fault} (hbefore : ∀ b ∈ before, b.Behaves) (he : e.Misbehaves fault) (number : Nat)
    (sources : List Text) (elements : List Element) (s : σ)
    (h : exchanges engine sources elements s = before ++ e :: after) :
    (engine.performAll fullName number sources elements s).value =
        .told (number + before.length) e.statement.source (FailureCause.ofFault fault) ∧
      (engine.performAll fullName number sources elements s).state = e.state := by
  -- on the exchanges in front: each performs one statement, so number, sources and state all move on
  induction before generalizing number sources elements s with
  | nil =>
    obtain ⟨statement, rest, rfl, rfl, -⟩ := exchanges_eq_cons engine h
    rw [Engine.performAll, perform_of_misbehaves engine he]
    exact ⟨rfl, rfl⟩
  | cons b before ih =>
    obtain ⟨statement, rest, rfl, rfl, hrest⟩ := exchanges_eq_cons engine h
    obtain ⟨hb, hbefore⟩ := List.forall_mem_cons.mp hbefore
    have hnext := ih hbefore (number + 1) _ rest _ hrest
    have hindex : number + 1 + before.length = number + (before.length + 1) := by omega
    rw [hindex] at hnext
    rw [Engine.performAll, perform_of_behaves engine hb]
    exact hnext

lemma performAll_of_behaves (fullName : Text) (number : Nat) (sources : List Text) (elements : List Element) (s : σ)
    (h : ∀ e ∈ exchanges engine sources elements s, e.Behaves) :
    (engine.performAll fullName number sources elements s).value =
        (if none ∈ elements then .raised notAStatement else .completed) ∧
      (engine.performAll fullName number sources elements s).state =
        stateAfter s (exchanges engine sources elements s) := by
  induction elements generalizing number sources s with
  | nil => exact ⟨rfl, rfl⟩
  | cons element rest ih =>
    cases element with
    | none => exact ⟨(if_pos List.mem_cons_self).symm, rfl⟩
    | some statement =>
      rw [exchanges] at h
      obtain ⟨he, hrest⟩ := List.forall_mem_cons.mp h
      have hnext := ih (number + 1) _ _ hrest
      have hmem : none ∈ some statement :: rest ↔ none ∈ rest := by simp
      rw [Engine.performAll, perform_of_behaves engine he, addSource_eq]
      simp only [hmem]
      exact hnext

end Exchanges

lemma first_misbehaves {σ : Type} (all : List (Exchange σ)) :
    (∀ e ∈ all, e.Behaves) ∨ ∃ before e after fault,
      all = before ++ e :: after ∧ (∀ b ∈ before, b.Behaves) ∧ e.Misbehaves fault := by
  induction all with
  | nil => exact .inl fun _ he => absurd he List.not_mem_nil
  | cons e rest ih =>
    rcases behaves_or_misbehaves (awaited e.statement) e.answer with he | ⟨fault, he⟩
    · rcases ih with hrest | ⟨before, e', after, fault, rfl, hbefore, he'⟩
      · exact .inl (List.forall_mem_cons.mpr ⟨he, hrest⟩)
      · exact .inr ⟨e :: before, e', after, fault, rfl, List.forall_mem_cons.mpr ⟨he, hbefore⟩, he'⟩
    · exact .inr ⟨[], e, rest, fault, rfl, fun _ hb => absurd hb List.not_mem_nil, he⟩

end SuiteRunner.Proofs
