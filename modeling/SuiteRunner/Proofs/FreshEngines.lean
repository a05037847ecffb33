import SuiteRunner.Proofs.Lifecycle
import SuiteRunner.World.Engine

/-!
# Engines that start afresh

An engine starts afresh if what was before a start does not show in what follows it. On such an engine a test has one
result in a mode, whatever was run before. The state itself may tell more than the answers do: an engine with a record
of its calls starts afresh if the engine without does.
-/

namespace SuiteRunner.Proofs

section Alike

variable {σ : Type} (engine : Engine σ)

/-- The answers to calls that are made one after the other. -/
def answersTo : List CallRecord → σ → List (Except Fault Text)
  | [], _ => []
  | call :: rest, s => (makeCall engine call s).1 :: answersTo rest (makeCall engine call s).2

/-- Until it is started again, the engine answers all calls from one state as it does from the other. -/
def Alike (s t : σ) : Prop :=
  ∀ calls : List CallRecord, (∀ call ∈ calls, startOf? call = none) →
    answersTo engine calls s = answersTo engine calls t

/-- Whether a start succeeds and what the calls after it are answered depends on the mode and the owner alone. -/
def StartsAfresh : Prop :=
  ∀ mode owner s t, (engine.start mode owner s).1 = (engine.start mode owner t).1 ∧
    ((engine.start mode owner s).1 = .ok () →
      Alike engine (engine.start mode owner s).2 (engine.start mode owner t).2)

variable {engine} {s t : σ}

lemma Alike.makeCall (h : Alike engine s t) {call : CallRecord} (hcall : startOf? call = none) :
    (makeCall engine call s).1 = (makeCall engine call t).1 ∧
      Alike engine (makeCall engine call s).2 (makeCall engine call t).2 := by
  have hcalls (calls : List CallRecord) (hrest : ∀ c ∈ calls, startOf? c = none) :
      answersTo engine (call :: calls) s = answersTo engine (call :: calls) t :=
    h (call :: calls) (List.forall_mem_cons.mpr ⟨hcall, hrest⟩)
  constructor
  · exact (List.cons.inj (hcalls [] fun _ hc => absurd hc List.not_mem_nil)).1
  · exact fun calls hrest => (List.cons.inj (hcalls calls hrest)).2

lemma silent_inj {call : Call σ Unit} (h : (silent call s).1 = (silent call t).1) : (call s).1 = (call t).1 := by
  rw [silent, silent] at h
  cases hs : (call s).1 with
  | ok u => cases ht : (call t).1 with
    | ok u' => rfl
    | error fault => simp [hs, ht, Except.map] at h
  | error fault => cases ht : (call t).1 with
    | ok u => simp [hs, ht, Except.map] at h
    | error fault' => simpa [hs, ht, Except.map] using h

lemma Alike.compile (h : Alike engine s t) (source : Text) :
    (engine.compile source s).1 = (engine.compile source t).1 ∧
      Alike engine (engine.compile source s).2 (engine.compile source t).2 := by
  have hcall : startOf? (.compile source) = none := rfl
  obtain ⟨hanswer, hstate⟩ := h.makeCall hcall
  exact ⟨silent_inj hanswer, hstate⟩

lemma Alike.dispose (h : Alike engine s t) : (engine.dispose s).1 = (engine.dispose t).1 := by
  have hcall : startOf? .dispose = none := rfl
  exact silent_inj (h.makeCall hcall).1

lemma IsJudged.unique {expected : Awaited} {answer : Except Fault Text} {first second : Except Fault Unit}
    (hfirst : IsJudged expected answer first) (hsecond : IsJudged expected answer second) : first = second := by
  rcases behaves_or_misbehaves expected answer with hb | ⟨fault, hm⟩
  · rw [hfirst.eq_ok hb, hsecond.eq_ok hb]
  · rw [hfirst.eq_error hm, hsecond.eq_error hm]

lemma Alike.perform (h : Alike engine s t) (sources : List Text) (statement : Statement) :
    (engine.perform sources statement s).1 = (engine.perform sources statement t).1 ∧
      Alike engine (engine.perform sources statement s).2 (engine.perform sources statement t).2 := by
  obtain ⟨hanswer, hstate⟩ := h.makeCall (startOf?_callOf sources statement)
  have hjudged := perform_isJudged engine sources statement s
  rw [hanswer] at hjudged
  rw [perform_state, perform_state]
  exact ⟨hjudged.unique (perform_isJudged engine sources statement t), hstate⟩

lemma Alike.performAll (h : Alike engine s t) (fullName : Text) (number : Nat) (sources : List Text)
    (elements : List Element) :
    (engine.performAll fullName number sources elements s).value =
        (engine.performAll fullName number sources elements t).value ∧
      Alike engine (engine.performAll fullName number sources elements s).state
        (engine.performAll fullName number sources elements t).state := by
  induction elements generalizing number sources s t with
  | nil => exact ⟨rfl, h⟩
  | cons element rest ih =>
    cases element with
    | none => exact ⟨rfl, h⟩
    | some statement =>
      obtain ⟨hjudgement, hstate⟩ := h.perform sources statement
      rw [Engine.performAll, Engine.performAll]
      rcases hs : engine.perform sources statement s with ⟨judgement, s'⟩
      rcases ht : engine.perform sources statement t with ⟨judgement', t'⟩
      rw [hs, ht] at hjudgement hstate
      obtain rfl : judgement = judgement' := hjudgement
      cases judgement with
      | error fault => exact ⟨rfl, hstate⟩
      | ok u => exact ih hstate (number + 1) _

lemma Alike.performTest (h : Alike engine s t) (test : TestCase) :
    (engine.performTest test s).value = (engine.performTest test t).value ∧
      Alike engine (engine.performTest test s).state (engine.performTest test t).state := by
  obtain ⟨hanswer, hstate⟩ := h.compile test.definitions
  rcases hs : engine.compile test.definitions s with ⟨answer, s'⟩
  rcases ht : engine.compile test.definitions t with ⟨answer', t'⟩
  rw [hs, ht] at hanswer hstate
  obtain rfl : answer = answer' := hanswer
  cases answer with
  | error fault =>
    obtain ⟨hvalue, hafter⟩ := performTest_of_not_compile hs
    obtain ⟨hvalue', hafter'⟩ := performTest_of_not_compile ht
    rw [hvalue, hvalue', hafter, hafter']
    exact ⟨rfl, hstate⟩
  | ok u =>
    rw [performTest_of_compile hs, performTest_of_compile ht]
    exact hstate.performAll test.fullName 1 _ _

end Alike

section Fresh

variable {σ : Type} {engine : Engine σ}

lemma StartsAfresh.attempt (h : StartsAfresh engine) (test : TestCase) (mode : Mode) (s t : σ) :
    (engine.attempt test mode s).value = (engine.attempt test mode t).value := by
  obtain ⟨hanswer, hstate⟩ := h mode test.fullName s t
  rcases hs : engine.start mode test.fullName s with ⟨answer, s'⟩
  rcases ht : engine.start mode test.fullName t with ⟨answer', t'⟩
  rw [hs, ht] at hanswer hstate
  obtain rfl : answer = answer' := hanswer
  cases answer with
  | error fault => rw [Engine.attempt, Engine.attempt, hs, ht]
  | ok u =>
    obtain ⟨hending, hafter⟩ := (hstate rfl).performTest test
    have hvalue := (attempt_of_start hs rfl rfl rfl).1
    have hvalue' := (attempt_of_start ht rfl rfl rfl).1
    rw [hvalue, hvalue', hending, hafter.dispose]

theorem StartsAfresh.runInMode (h : StartsAfresh engine) (test : TestCase) (mode : Mode) (s t : σ) :
    (engine.runInMode test mode s).value = (engine.runInMode test mode t).value := by
  rw [runInMode_value, runInMode_value, h.attempt test mode s t]

lemma startsAfresh_of_start (h : ∀ mode owner s t, engine.start mode owner s = engine.start mode owner t) :
    StartsAfresh engine := by
  intro mode owner s t
  rw [h mode owner s t]
  exact ⟨rfl, fun _ _ _ => rfl⟩

lemma startsAfresh_world : StartsAfresh Engine.world :=
  startsAfresh_of_start fun _ _ _ _ => rfl

lemma startsAfresh_scripted (script : Mode → Script) : StartsAfresh (Engine.scripted script) :=
  startsAfresh_of_start fun _ _ _ _ => rfl

lemma makeCall_recorded (engine : Engine σ) (call : CallRecord) (s : σ) (record : List CallRecord) :
    (makeCall engine.recorded call (s, record)).1 = (makeCall engine call s).1 ∧
      (makeCall engine.recorded call (s, record)).2.1 = (makeCall engine call s).2 := by
  cases call <;> exact ⟨rfl, rfl⟩

lemma OnlyRaises.recorded {P : Fault → Prop} (h : OnlyRaises engine P) : OnlyRaises engine.recorded P := by
  intro call s fault hfault
  rw [(makeCall_recorded engine call s.1 s.2).1] at hfault
  exact h call s.1 fault hfault

lemma answersTo_recorded (calls : List CallRecord) (s : σ × List CallRecord) :
    answersTo engine.recorded calls s = answersTo engine calls s.1 := by
  induction calls generalizing s with
  | nil => rfl
  | cons call calls ih =>
    obtain ⟨hanswer, hstate⟩ := makeCall_recorded engine call s.1 s.2
    rw [answersTo, answersTo, ih, hanswer, hstate]

/-- A record does not keep an engine from starting afresh, though it grows from start to start. -/
theorem StartsAfresh.recorded (h : StartsAfresh engine) : StartsAfresh engine.recorded := by
  intro mode owner s t
  obtain ⟨hanswer, halike⟩ := h mode owner s.1 t.1
  refine ⟨hanswer, fun hok calls hcalls => ?_⟩
  rw [answersTo_recorded, answersTo_recorded]
  exact halike hok calls hcalls

end Fresh

end SuiteRunner.Proofs
