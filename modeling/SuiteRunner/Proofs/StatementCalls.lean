import Mathlib.Tactic.Common
import SuiteRunner.Engine.Recorded
import SuiteRunner.Run.Perform

/-!
# The calls of statements

Each statement makes one call on the engine. What it awaits of the call and what is wrong with an answer are stated
here apart from the engine; performing a statement is making its call and judging the answer in this way.
-/

namespace SuiteRunner.Proofs

/-- The call that a statement makes where these sources were compiled before. -/
def callOf (sources : List Text) : Statement → CallRecord
  | .openModel path => .openModel path
  | .definition source => .compile (Text.unlines (sources ++ [source]))
  | .command agent text (.compileError _) => .compileCommand text agent
  | .command agent text _ => .execute text agent
  | .expression text _ => .evaluate text .observer

/-- The call with an empty text for its answer. -/
def silent {σ : Type} (call : Call σ Unit) : Call σ Text :=
  fun s => ((call s).1.map fun _ => [], (call s).2)

def makeCall {σ : Type} (engine : Engine σ) : CallRecord → Call σ Text
  | .start mode owner _ => silent (engine.start mode owner)
  | .compile source => silent (engine.compile source)
  | .compileCommand text agent => silent (engine.compileCommand text agent)
  | .execute text agent => silent (engine.execute text agent)
  | .evaluate text agent => engine.evaluate text agent
  | .openModel path => silent (engine.openModel path)
  | .dispose => silent engine.dispose

/-- What has to come of a call: any answer, this answer, or a fault that the keyword announces, with this text. -/
inductive Awaited where
  | success
  | value (text : Text)
  | fault (keyword : Keyword) (text : Text)

def awaited : Statement → Awaited
  | .openModel _ => .success
  | .definition _ => .success
  | .command _ _ .success => .success
  | .command _ _ (.error message) => .fault .error message
  | .command _ _ (.compileError message) => .fault .compilerError message
  | .command _ _ (.stackTrace trace) => .fault .stackTrace trace
  | .expression _ (.result value) => .value value
  | .expression _ (.error message) => .fault .error message
  | .expression _ (.stackTrace trace) => .fault .stackTrace trace

inductive Behaves : Awaited → Except Fault Text → Prop
  | success {value : Text} : Behaves .success (.ok value)
  | value {text : Text} : Behaves (.value text) (.ok text)
  | fault {keyword : Keyword} {fault : Fault} {text : Text} (h : fault.announced keyword = some (.ok text)) :
      Behaves (.fault keyword text) (.error fault)

/-- What is wrong with an answer, as the fault that the run stops at. Only texts that differ and a fault that stays away
are mismatches; any other fault is the engine's own, or comes of reading one. -/
inductive Misbehaves : Awaited → Except Fault Text → Fault → Prop
  | otherText {keyword : Keyword} {fault : Fault} {expected actual : Text}
      (h : fault.announced keyword = some (.ok actual)) (hne : actual ≠ expected) :
      Misbehaves (.fault keyword expected) (.error fault) (.mismatch expected actual)
  | unreadText {keyword : Keyword} {fault raised : Fault} {expected : Text}
      (h : fault.announced keyword = some (.error raised)) :
      Misbehaves (.fault keyword expected) (.error fault) raised
  | otherFault {keyword : Keyword} {fault : Fault} {expected : Text} (h : fault.announced keyword = none) :
      Misbehaves (.fault keyword expected) (.error fault) fault
  | noFault {keyword : Keyword} {expected value : Text} :
      Misbehaves (.fault keyword expected) (.ok value) (.mismatch (keyword.write expected) keyword.absence)
  | otherValue {expected actual : Text} (hne : actual ≠ expected) :
      Misbehaves (.value expected) (.ok actual) (.mismatch expected actual)
  | noValue {expected : Text} {fault : Fault} : Misbehaves (.value expected) (.error fault) fault
  | noSuccess {fault : Fault} : Misbehaves .success (.error fault) fault

lemma behaves_or_misbehaves (expected : Awaited) (answer : Except Fault Text) :
    Behaves expected answer ∨ ∃ fault, Misbehaves expected answer fault := by
  cases expected with
  | success =>
    cases answer with
    | ok value => exact .inl .success
    | error fault => exact .inr ⟨_, .noSuccess⟩
  | value text =>
    cases answer with
    | ok actual =>
      by_cases h : actual = text
      · exact .inl (h ▸ .value)
      · exact .inr ⟨_, .otherValue h⟩
    | error fault => exact .inr ⟨_, .noValue⟩
  | fault keyword text =>
    cases answer with
    | ok value => exact .inr ⟨_, .noFault⟩
    | error fault =>
      rcases ht : fault.announced keyword with _ | raised | actual
      · exact .inr ⟨_, .otherFault ht⟩
      · exact .inr ⟨_, .unreadText ht⟩
      · by_cases h : actual = text
        · exact .inl (.fault (h ▸ ht))
        · exact .inr ⟨_, .otherText ht h⟩

lemma Misbehaves.not_behaves {expected : Awaited} {answer : Except Fault Text} {fault : Fault}
    (h : Misbehaves expected answer fault) : ¬ Behaves expected answer := by
  intro hb
  cases h with
  | otherText h hne =>
    cases hb with
    | fault h' => exact hne (Except.ok.inj (Option.some.inj (h.symm.trans h')))
  | unreadText h =>
    cases hb with
    | fault h' => exact absurd (Option.some.inj (h.symm.trans h')) (by simp)
  | otherFault h =>
    cases hb with
    | fault h' => exact Option.some_ne_none _ (h'.symm.trans h)
  | otherValue hne =>
    cases hb
    exact hne rfl
  | noFault => cases hb
  | noValue => cases hb
  | noSuccess => cases hb

/-- The judgement that goes with the answer to a call. -/
inductive IsJudged (expected : Awaited) (answer : Except Fault Text) : Except Fault Unit → Prop
  | ok (h : Behaves expected answer) : IsJudged expected answer (.ok ())
  | error {fault : Fault} (h : Misbehaves expected answer fault) : IsJudged expected answer (.error fault)

lemma IsJudged.eq_ok {expected : Awaited} {answer : Except Fault Text} {judgement : Except Fault Unit}
    (h : IsJudged expected answer judgement) (hb : Behaves expected answer) : judgement = .ok () := by
  cases h with
  | ok => rfl
  | error hm => exact absurd hb hm.not_behaves

lemma Misbehaves.fault_unique {expected : Awaited} {answer : Except Fault Text} {fault fault' : Fault}
    (h : Misbehaves expected answer fault) (h' : Misbehaves expected answer fault') : fault = fault' := by
  cases h with
  | otherText h =>
    cases h' with
    | otherText h' => rw [Except.ok.inj (Option.some.inj (h.symm.trans h'))]
    | unreadText h' => exact absurd (Option.some.inj (h.symm.trans h')) (by simp)
    | otherFault h' => exact absurd (h.symm.trans h') (Option.some_ne_none _)
  | unreadText h =>
    cases h' with
    | otherText h' => exact absurd (Option.some.inj (h.symm.trans h')) (by simp)
    | unreadText h' => exact Except.error.inj (Option.some.inj (h.symm.trans h'))
    | otherFault h' => exact absurd (h.symm.trans h') (Option.some_ne_none _)
  | otherFault h =>
    cases h' with
    | otherText h' => exact absurd (h'.symm.trans h) (Option.some_ne_none _)
    | unreadText h' => exact absurd (h'.symm.trans h) (Option.some_ne_none _)
    | otherFault => rfl
  | noFault => cases h'; rfl
  | otherValue => cases h'; rfl
  | noValue => cases h'; rfl
  | noSuccess => cases h'; rfl

lemma IsJudged.eq_error {expected : Awaited} {answer : Except Fault Text} {judgement : Except Fault Unit}
    {fault : Fault} (h : IsJudged expected answer judgement) (hm : Misbehaves expected answer fault) :
    judgement = .error fault := by
  cases h with
  | ok hb => exact absurd hb hm.not_behaves
  | error hm' => rw [hm'.fault_unique hm]

section Judgements

variable {α : Type} (f : α → Text) (answer : Except Fault α)

lemma isJudged_success : IsJudged .success (answer.map f) (judgeSuccess answer) := by
  cases answer with
  | ok value => exact .ok .success
  | error fault => exact .error .noSuccess

lemma isJudged_announced (keyword : Keyword) (expected : Text) :
    IsJudged (.fault keyword expected) (answer.map f) (judgeAnnounced keyword expected answer) := by
  cases answer with
  | ok value => exact .error .noFault
  | error fault =>
    rw [judgeAnnounced]
    rcases h : fault.announced keyword with _ | raised | actual
    · exact .error (.otherFault h)
    · exact .error (.unreadText h)
    · change IsJudged _ _ (judgeText expected actual)
      rw [judgeText]
      split
      · next heq => exact .ok (.fault (heq ▸ h))
      · next hne => exact .error (.otherText h hne)

lemma isJudged_value (value : Text) (answer : Except Fault Text) :
    IsJudged (.value value) answer ((ExpressionOutcome.result value).judge answer) := by
  cases answer with
  | ok actual =>
    change IsJudged _ _ (judgeText value actual)
    rw [judgeText]
    split
    · next heq => exact .ok (heq ▸ .value)
    · next hne => exact .error (.otherValue hne)
  | error fault => exact .error .noValue

end Judgements

theorem perform_isJudged {σ : Type} (engine : Engine σ) (sources : List Text) (statement : Statement) (s : σ) :
    IsJudged (awaited statement) (makeCall engine (callOf sources statement) s).1
      (engine.perform sources statement s).1 := by
  cases statement with
  | openModel path => exact isJudged_success _ _
  | definition source => exact isJudged_success _ _
  | command agent text expected =>
    cases expected with
    | success => exact isJudged_success _ _
    | error message => exact isJudged_announced _ _ .error message
    | compileError message => exact isJudged_announced _ _ .compilerError message
    | stackTrace trace => exact isJudged_announced _ _ .stackTrace trace
  | expression text expected =>
    cases expected with
    | result value => exact isJudged_value value _
    | error message =>
      have h := isJudged_announced id (engine.evaluate text .observer s).1 .error message
      rw [Except.map_id] at h
      exact h
    | stackTrace trace =>
      have h := isJudged_announced id (engine.evaluate text .observer s).1 .stackTrace trace
      rw [Except.map_id] at h
      exact h

lemma perform_state {σ : Type} (engine : Engine σ) (sources : List Text) (statement : Statement) (s : σ) :
    (engine.perform sources statement s).2 = (makeCall engine (callOf sources statement) s).2 := by
  cases statement with
  | command agent text expected => cases expected <;> rfl
  | _ => rfl

section Faults

/-- Every part of the fault can be read. -/
def IsReadable : Fault → Prop
  | .unreadable _ _ _ => False
  | _ => True

/-- Whatever is called on the engine and when, a fault that it raises is one of these. -/
def OnlyRaises {σ : Type} (engine : Engine σ) (P : Fault → Prop) : Prop :=
  ∀ call s fault, (makeCall engine call s).1 = .error fault → P fault

lemma IsReadable.exists_describe {fault : Fault} (h : IsReadable fault) : ∃ text, fault.describe = .ok text := by
  cases fault with
  | unreadable => exact absurd h not_false
  | _ => exact ⟨_, rfl⟩

lemma IsReadable.leavingScope {fault : Fault} (h : IsReadable fault) : IsReadable fault.leavingScope := by
  rw [Fault.leavingScope]
  split
  · trivial
  · exact h

lemma IsReadable.announced {fault raised : Fault} (h : IsReadable fault) (keyword : Keyword) :
    fault.announced keyword ≠ some (.error raised) := by
  cases fault with
  | unreadable => exact absurd h not_false
  | execution message trace => cases keyword <;> simp [Fault.announced]
  | compiler message => cases keyword <;> simp [Fault.announced]
  | _ => simp [Fault.announced]

lemma IsReadable.exists_cause {fault : Fault} (h : IsReadable fault) :
    ∃ cause, FailureCause.ofFault fault = .ok cause := by
  cases fault with
  | unreadable => exact absurd h not_false
  | _ => exact ⟨_, rfl⟩

lemma Misbehaves.isReadable {expected : Awaited} {answer : Except Fault Text} {fault : Fault}
    (h : Misbehaves expected answer fault) (hanswer : ∀ raised, answer = .error raised → IsReadable raised) :
    IsReadable fault := by
  cases h with
  | otherText | noFault | otherValue => trivial
  | unreadText h => exact absurd h ((hanswer _ rfl).announced _)
  | otherFault | noValue | noSuccess => exact hanswer _ rfl

end Faults

end SuiteRunner.Proofs
