import SuiteRunner.Proofs.IntegerTexts
import SuiteRunner.World.Engine

/-!
# Where an evaluation stops

An evaluation comes to the words of an expression and to its operators in turn, and from the name of a reporter into the
body of it. The main statement is that an evaluation stops exactly if it comes to a place at which it cannot go on, and
that a failure is then marked with the calls in which this place is, from the innermost outwards.
-/

namespace SuiteRunner.Fault

/-- The failures with which a runtime may answer an evaluation: source is turned down, or code fails while it runs. -/
inductive IsDeclared : Fault → Prop
  | compiler {message : Text} : IsDeclared (.compiler message)
  | execution {message trace : Text} : IsDeclared (.execution message trace)

end SuiteRunner.Fault

namespace SuiteRunner.World

/-- The stop as the outermost of the callers sees it. The innermost comes first. -/
def Stop.through (names : List Text) (stop : Stop) : Stop :=
  names.foldl (fun stop name => stop.calledBy name) stop

end SuiteRunner.World

namespace SuiteRunner.Proofs
open World

inductive Place where
  /-- A text without words. -/
  | nothing
  | word (word : Text)
  | application (op : Operator) (left right : Value)
  /-- What follows the value is no operator with an atom. -/
  | gap (left : Value)
  /-- No further call may be made. -/
  | limit

/-- What a chain comes to from the value in front of it. -/
inductive ChainMeets (w : World) (agent : Agent) (call : Text → Except Stop Value) : Value → Chain → Place → Prop
  | word {left : Value} {op : Operator} {word : Text} {rest : Chain} :
      ChainMeets w agent call left (.step op (.word word) rest) (.word word)
  | application {left right : Value} {op : Operator} {atom : Atom} {rest : Chain}
      (operand : atomValue w call atom = .ok right) :
      ChainMeets w agent call left (.step op atom rest) (.application op left right)
  | gap {left : Value} : ChainMeets w agent call left .broken (.gap left)
  | later {left right next : Value} {op : Operator} {atom : Atom} {rest : Chain} {place : Place}
      (operand : atomValue w call atom = .ok right) (applied : World.apply agent op left right = .ok next)
      (later : ChainMeets w agent call next rest place) : ChainMeets w agent call left (.step op atom rest) place

/-- What the expression of a text comes to, the bodies of reporters left aside. -/
inductive Meets (w : World) (agent : Agent) (depth : Nat) (t : Text) : Place → Prop
  | nothing (noWords : Expression.ofWords? t.words = none) : Meets w agent depth t .nothing
  | first {word : Text} {rest : Chain} (expression : Expression.ofWords? t.words = some ⟨.word word, rest⟩) :
      Meets w agent depth t (.word word)
  | later {e : Expression} {left : Value} {place : Place} (expression : Expression.ofWords? t.words = some e)
      (first : atomValue w (w.value agent depth) e.first = .ok left)
      (later : ChainMeets w agent (w.value agent depth) left e.rest place) : Meets w agent depth t place

/-- What the evaluation of a text comes to inside the calls of these reporters, the innermost first. -/
inductive Reaches (w : World) (agent : Agent) : Nat → Text → List Text → Place → Prop
  | limit {t : Text} : Reaches w agent 0 t [] .limit
  | here {depth : Nat} {t : Text} {place : Place} (meets : Meets w agent depth t place) :
      Reaches w agent (depth + 1) t [] place
  | called {depth : Nat} {t name body : Text} {names : List Text} {place : Place}
      (meets : Meets w agent depth t (.word name)) (isName : IsName name) (noGlobal : w.globals.get? name = none)
      (found : w.reporters.get? name = some body) (inside : Reaches w agent depth body names place) :
      Reaches w agent (depth + 1) t (names ++ [name]) place

/-- The evaluation cannot go on at this place, whatever is called. -/
inductive StopsAt (w : World) (agent : Agent) : Place → Stop → Prop
  | nothing : StopsAt w agent .nothing (rejected "Expected a reporter.".toList)
  | unread {word : Text} {fault : IntegerFault} (numeric : looksNumeric word = true)
      (reads : readInt word = .error fault) : StopsAt w agent (.word word) (.fault (unreadInteger word fault))
  | unknown {word : Text} (isName : IsName word) (noGlobal : w.globals.get? word = none)
      (noReporter : w.reporters.get? word = none) : StopsAt w agent (.word word) (.fault (nothingNamed word))
  | application {op : Operator} {left right : Value} {stop : Stop}
      (applied : World.apply agent op left right = .error stop) : StopsAt w agent (.application op left right) stop
  | gap {left : Value} : StopsAt w agent (.gap left) (noOperation left)
  | limit : StopsAt w agent .limit .tooDeep

/-- The evaluation does not get past this place: it cannot go on there, or the reporter that it calls does not. -/
inductive HaltsAt (w : World) (agent : Agent) (call : Text → Except Stop Value) : Place → Stop → Prop
  | here {place : Place} {stop : Stop} (stops : StopsAt w agent place stop) : HaltsAt w agent call place stop
  | called {name body : Text} {inner : Stop} (isName : IsName name) (noGlobal : w.globals.get? name = none)
      (found : w.reporters.get? name = some body) (stops : call body = .error inner) :
      HaltsAt w agent call (.word name) (inner.calledBy name)

section Expressions

variable {w : World} {agent : Agent} {call : Text → Except Stop Value} {stop : Stop}

lemma wordValue_eq_error_iff {word : Text} :
    wordValue w call word = .error stop ↔ HaltsAt w agent call (.word word) stop := by
  constructor
  · intro h
    have hword := hasWordValue w call word
    rw [h] at hword
    generalize hresult : Except.error stop = result at hword
    cases hword with
    | unread numeric reads =>
      cases hresult
      exact .here (.unread numeric reads)
    | unknown isName noGlobal noReporter =>
      cases hresult
      exact .here (.unknown isName noGlobal noReporter)
    | reporter isName noGlobal found =>
      obtain ⟨inner, hinner, rfl⟩ := mapError_eq_error_iff.mp hresult.symm
      exact .called isName noGlobal found hinner
    | _ => cases hresult
  · intro h
    cases h with
    | here stops =>
      cases stops with
      | unread numeric reads => simp [wordValue, numeric, reads]
      | unknown isName noGlobal noReporter => exact wordValue_of_unknown isName noGlobal noReporter
    | called isName noGlobal found stops =>
      rw [wordValue_of_reporter isName noGlobal found, stops]
      rfl

lemma atomValue_eq_error_iff {atom : Atom} :
    atomValue w call atom = .error stop ↔ ∃ word, atom = .word word ∧ HaltsAt w agent call (.word word) stop := by
  cases atom with
  | countTurtles => simp [atomValue]
  | word word =>
    have hword : wordValue w call word = .error stop ↔ HaltsAt w agent call (.word word) stop := wordValue_eq_error_iff
    simp [atomValue, hword]

lemma apply_eq_error_iff {op : Operator} {left right : Value} :
    World.apply agent op left right = .error stop ↔ HaltsAt w agent call (.application op left right) stop := by
  constructor
  · exact fun h => .here (.application h)
  · intro h
    cases h with
    | here stops =>
      cases stops with
      | application applied => exact applied

lemma chainValue_eq_error_iff {left : Value} {chain : Chain} :
    chainValue w agent call left chain = .error stop ↔
      ∃ place, ChainMeets w agent call left chain place ∧ HaltsAt w agent call place stop := by
  constructor
  · intro h
    induction chain generalizing left with
    | done => cases h
    | broken =>
      cases h
      exact ⟨_, .gap, .here .gap⟩
    | step op atom rest ih =>
      rcases chainValue_step_eq_error_iff.mp h with hatom | ⟨right, hright, happly | ⟨next, hnext, hrest⟩⟩
      · obtain ⟨word, rfl, hhalts⟩ := atomValue_eq_error_iff.mp hatom
        exact ⟨_, .word, hhalts⟩
      · exact ⟨_, .application hright, apply_eq_error_iff.mp happly⟩
      · obtain ⟨place, hmeets, hhalts⟩ := ih hrest
        exact ⟨place, .later hright hnext hmeets, hhalts⟩
  · rintro ⟨place, hmeets, hhalts⟩
    induction hmeets with
    | word => exact chainValue_step_eq_error_iff.mpr (.inl (atomValue_eq_error_iff.mpr ⟨_, rfl, hhalts⟩))
    | application operand =>
      exact chainValue_step_eq_error_iff.mpr (.inr ⟨_, operand, .inl (apply_eq_error_iff.mpr hhalts)⟩)
    | gap =>
      cases hhalts with
      | here stops =>
        cases stops
        rfl
    | later operand applied _ ih =>
      exact chainValue_step_eq_error_iff.mpr (.inr ⟨_, operand, .inr ⟨_, applied, ih hhalts⟩⟩)

lemma value_succ_eq_error_iff {depth : Nat} {t : Text} :
    w.value agent (depth + 1) t = .error stop ↔
      ∃ place, Meets w agent depth t place ∧ HaltsAt w agent (w.value agent depth) place stop := by
  rw [value_eq_error_iff]
  constructor
  · rintro (⟨hnone, rfl⟩ | ⟨⟨first, rest⟩, he, hfirst | ⟨left, hleft, hchain⟩⟩)
    · exact ⟨_, .nothing hnone, .here .nothing⟩
    · obtain ⟨word, rfl, hhalts⟩ := atomValue_eq_error_iff.mp hfirst
      exact ⟨_, .first he, hhalts⟩
    · obtain ⟨place, hmeets, hhalts⟩ := chainValue_eq_error_iff.mp hchain
      exact ⟨place, .later he hleft hmeets, hhalts⟩
  · rintro ⟨place, hmeets, hhalts⟩
    cases hmeets with
    | nothing noWords =>
      cases hhalts with
      | here stops =>
        cases stops
        exact .inl ⟨noWords, rfl⟩
    | first expression => exact .inr ⟨_, expression, .inl (atomValue_eq_error_iff.mpr ⟨_, rfl, hhalts⟩)⟩
    | later expression first later =>
      exact .inr ⟨_, expression, .inr ⟨_, first, chainValue_eq_error_iff.mpr ⟨_, later, hhalts⟩⟩⟩

end Expressions

section Calls

variable {w : World} {agent : Agent} {depth : Nat} {t : Text} {stop : Stop}

lemma through_append (names : List Text) (name : Text) :
    stop.through (names ++ [name]) = (stop.through names).calledBy name := by
  rw [Stop.through, List.foldl_append]
  rfl

/-- What a text comes to inside the calls of reporters is what stops it, and these are the calls that the stop has gone
through. -/
theorem value_eq_error_iff_reaches :
    w.value agent depth t = .error stop ↔
      ∃ names place origin, Reaches w agent depth t names place ∧ StopsAt w agent place origin ∧
        stop = origin.through names := by
  constructor
  · intro h
    -- a reporter is evaluated with one level less, and its name comes after those of the calls inside it
    induction depth generalizing t stop with
    | zero =>
      cases h
      exact ⟨[], .limit, .tooDeep, .limit, .limit, rfl⟩
    | succ depth ih =>
      obtain ⟨place, hmeets, hhalts⟩ := value_succ_eq_error_iff.mp h
      cases hhalts with
      | here stops => exact ⟨[], place, stop, .here hmeets, stops, rfl⟩
      | @called name _ _ isName noGlobal found stops =>
        obtain ⟨names, place, origin, hreaches, horigin, rfl⟩ := ih stops
        exact ⟨names ++ [name], place, origin, .called hmeets isName noGlobal found hreaches, horigin,
          (through_append names name).symm⟩
  · rintro ⟨names, place, origin, hreaches, horigin, rfl⟩
    induction hreaches with
    | limit =>
      cases horigin
      rfl
    | here meets => exact value_succ_eq_error_iff.mpr ⟨_, meets, .here horigin⟩
    | called meets isName noGlobal found _ ih =>
      rw [through_append]
      exact value_succ_eq_error_iff.mpr ⟨_, meets, .called isName noGlobal found (ih horigin)⟩

section Undeclared

variable {fault : Fault} (hfault : ¬ fault.IsDeclared)

include hfault

lemma calledBy_eq_fault_iff {name : Text} : stop.calledBy name = .fault fault ↔ stop = .fault fault := by
  cases stop with
  | tooDeep => rfl
  | fault inner =>
    cases inner with
    | execution message trace =>
      constructor
      · rintro ⟨⟩
        exact absurd .execution hfault
      · rintro ⟨⟩
        exact absurd .execution hfault
    | _ => rfl

lemma through_eq_fault_iff {names : List Text} : stop.through names = .fault fault ↔ stop = .fault fault := by
  induction names generalizing stop with
  | nil => rfl
  | cons name names ih => exact ih.trans (calledBy_eq_fault_iff hfault)

lemma StopsAt.of_not_isDeclared {place : Place} (h : StopsAt w agent place (.fault fault)) :
    (∃ word unread, place = .word word ∧ looksNumeric word = true ∧ readInt word = .error unread ∧
        fault = unreadInteger word unread) ∨
      (∃ a b negative, place = .application .div (.int a) (.int b) ∧ b ≠ 0 ∧
        nearestQuotient a b = .infinite negative ∧ fault = quotientTooLarge) ∨
      ∃ left, place = .gap left ∧ IsTooLong left ∧ fault = tooLongInteger := by
  generalize hstop : Stop.fault fault = stop at h
  cases h with
  | nothing =>
    cases hstop
    exact absurd .compiler hfault
  | unread numeric reads => exact .inl ⟨_, _, rfl, numeric, reads, Stop.fault.inj hstop⟩
  | unknown =>
    cases hstop
    exact absurd .compiler hfault
  | @application op left right _ applied =>
    have happlies := applies agent op left right
    rw [applied] at happlies
    generalize hresult : Except.error stop = result at happlies
    subst hstop
    cases happlies with
    | tooLarge nonzero infinite =>
      cases hresult
      exact .inr (.inl ⟨_, _, _, rfl, nonzero, infinite, rfl⟩)
    | byZero =>
      cases hresult
      exact absurd .execution hfault
    | noNumbers =>
      cases hresult
      exact absurd .execution hfault
    | _ => cases hresult
  | @gap left =>
    rcases noOperation_cases left with ⟨message, hrejected⟩ | ⟨hlong, hwritten⟩
    · rw [hrejected] at hstop
      cases hstop
      exact absurd .compiler hfault
    · rw [hwritten] at hstop
      exact .inr (.inr ⟨left, rfl, hlong, Stop.fault.inj hstop⟩)
  | limit => cases hstop

end Undeclared

end Calls

end SuiteRunner.Proofs
