import SuiteRunner.Proofs.Effects
import SuiteRunner.Proofs.LeftFold
import SuiteRunner.Proofs.StoppedEvaluation

/-!
# Stack traces

Code is a text of commands or an expression. While it runs it comes to calls of procedures and reporters, whose bodies
are code again, and at last to a primitive that fails. The main statement is that the trace of the failure has one line
for each call between the code and this primitive, from the innermost outwards, and that the message stays that of the
primitive.
-/

namespace SuiteRunner.World

/-- The expression that the primitive evaluates, if it evaluates any. -/
def Primitive.expression? : Primitive → Text → Option Text
  | createTurtles, rest => some rest
  | set, rest => some (rest.cutAt ' ').2
  | _, _ => none

end SuiteRunner.World

namespace SuiteRunner.Proofs
open World

inductive Code where
  | commands (t : Text)
  | expression (t : Text)

/-- The name is the head of a command, or a word of an expression. -/
inductive IsUsedIn (name : Text) : Code → Prop
  | head {t command : Text} (mem : command ∈ commands t) (head : (command.cutAt ' ').1 = name) :
      IsUsedIn name (.commands t)
  | operand {t command e : Text} {p : Primitive} (mem : command ∈ commands t)
      (head : Primitive.ofText? (command.cutAt ' ').1 = some p)
      (expression : p.expression? (command.cutAt ' ').2 = some e) (word : name ∈ e.words) : IsUsedIn name (.commands t)
  | word {t : Text} (word : name ∈ t.words) : IsUsedIn name (.expression t)

/-- In the course of the code the agent comes to evaluate the expression, in this world. -/
inductive Evaluates (agent : Agent) : Nat → World → Code → Nat → World → Text → Prop
  | itself {depth : Nat} {w : World} {t : Text} : Evaluates agent depth w (.expression t) depth w t
  | operand {depth : Nat} {w w' : World} {t command e : Text} {p : Primitive}
      (comes : ComesTo agent depth w t command w') (head : Primitive.ofText? (command.cutAt ' ').1 = some p)
      (expression : p.expression? (command.cutAt ' ').2 = some e) :
      Evaluates agent (depth + 1) w (.commands t) depth w' e

/-- In the course of the code the agent comes to a call of this name, in this world, and runs the body. -/
inductive Calls (agent : Agent) : Nat → World → Code → Text → Nat → World → Code → Prop
  | procedure {depth : Nat} {w w' : World} {t command body : Text} (comes : ComesTo agent depth w t command w')
      (head : Primitive.ofText? (command.cutAt ' ').1 = none)
      (found : w'.procedures.get? (command.cutAt ' ').1 = some body) (checked : w'.check agent body = .ok ()) :
      Calls agent (depth + 1) w (.commands t) (command.cutAt ' ').1 depth w' (.commands body)
  | reporter {depth inner : Nat} {w w' : World} {code : Code} {e name body : Text}
      (evaluates : Evaluates agent depth w code (inner + 1) w' e) (meets : Meets w' agent inner e (.word name))
      (isName : IsName name) (noGlobal : w'.globals.get? name = none) (found : w'.reporters.get? name = some body) :
      Calls agent depth w code name inner w' (.expression body)

/-- In the course of the code, and not in a call, the primitive of this name fails with the message. -/
inductive FailsHere (agent : Agent) : Nat → World → Code → Text → Text → Prop
  | error {depth : Nat} {w w' : World} {t command : Text} (comes : ComesTo agent depth w t command w')
      (head : Primitive.ofText? (command.cutAt ' ').1 = some .error) :
      FailsHere agent (depth + 1) w (.commands t) "ERROR".toList (command.cutAt ' ').2
  | noNumbers {depth inner : Nat} {w w' : World} {code : Code} {e : Text} {op : Operator} {left right : Value}
      (evaluates : Evaluates agent depth w code (inner + 1) w' e)
      (meets : Meets w' agent inner e (.application op left right))
      (noNumbers : ∀ a b, left = .int a → right = .int b → False) :
      FailsHere agent depth w code op.text (op.text ++ " expected numbers.".toList)
  | byZero {depth inner : Nat} {w w' : World} {code : Code} {e : Text} {a : Int}
      (evaluates : Evaluates agent depth w code (inner + 1) w' e)
      (meets : Meets w' agent inner e (.application .div (.int a) (.int 0))) :
      FailsHere agent depth w code Operator.div.text "Division by zero.".toList

/-- While the code runs, a primitive fails inside the calls of these names, of which the innermost is the first. -/
inductive FailsInside (agent : Agent) : Nat → World → Code → List Text → Text → Text → Prop
  | here {depth : Nat} {w : World} {code : Code} {primitive message : Text}
      (fails : FailsHere agent depth w code primitive message) : FailsInside agent depth w code [] primitive message
  | called {depth inner : Nat} {w w' : World} {code body : Code} {name primitive message : Text} {names : List Text}
      (used : IsUsedIn name code) (calls : Calls agent depth w code name inner w' body)
      (inside : FailsInside agent inner w' body names primitive message) :
      FailsInside agent depth w code (names ++ [name]) primitive message

/-- The trace of a primitive that fails inside these calls. -/
def traceText (message : Text) (agent : Agent) (primitive : Text) (names : List Text) : Text :=
  message ++ "\nerror while ".toList ++ agent.name ++ " running ".toList ++ primitive ++
    names.flatMap fun name => "\n  called by procedure ".toList ++ name.toUpper

/-- The code stops before its end. -/
inductive StopsWith (agent : Agent) (depth : Nat) (w : World) : Code → Stop → Prop
  | commands {t : Text} {effects : List Effect} {stop : Stop}
      (turn : TakesTurn agent depth t w effects (.error stop)) : StopsWith agent depth w (.commands t) stop
  | expression {t : Text} {stop : Stop} (value : w.value agent depth t = .error stop) :
      StopsWith agent depth w (.expression t) stop

section Traces

variable {agent : Agent} {message primitive name : Text} {names : List Text}

lemma failed_eq_fault :
    failed message agent primitive = .fault (.execution message (traceText message agent primitive [])) := by
  rw [failed, traceText, List.flatMap_nil, List.append_nil]

lemma traceText_append : traceText message agent primitive (names ++ [name]) =
    traceText message agent primitive names ++ "\n  called by procedure ".toList ++ name.toUpper := by
  unfold traceText
  rw [List.flatMap_append, List.flatMap_singleton]
  simp only [List.append_assoc]

lemma calledBy_traceText :
    (Stop.fault (.execution message (traceText message agent primitive names))).calledBy name =
      .fault (.execution message (traceText message agent primitive (names ++ [name]))) := by
  rw [traceText_append]
  rfl

lemma calledBy_eq_execution_iff {stop : Stop} {trace : Text} :
    stop.calledBy name = .fault (.execution message trace) ↔
      ∃ inner, stop = .fault (.execution message inner) ∧
        trace = inner ++ "\n  called by procedure ".toList ++ name.toUpper := by
  cases stop with
  | tooDeep => simp [Stop.calledBy]
  | fault fault => cases fault <;> simp [Stop.calledBy, eq_comm]

end Traces

section Operators

variable {agent : Agent} {op : Operator} {left right : Value}

lemma apply_of_noNumbers (h : ∀ a b, left = .int a → right = .int b → False) :
    World.apply agent op left right = .error (failed (op.text ++ " expected numbers.".toList) agent op.text) := by
  unfold World.apply
  split
  case h_1 a b => exact (h a b rfl rfl).elim
  case h_2 => rfl

lemma apply_byZero (a : Int) :
    World.apply agent .div (.int a) (.int 0) = .error (failed "Division by zero.".toList agent Operator.div.text) :=
  rfl

end Operators

section Words

variable {w : World} {agent : Agent} {depth : Nat} {name : Text}

lemma ChainMeets.mem_words {call : Text → Except Stop Value} {left : Value} {words : List Text}
    (h : ChainMeets w agent call left (Chain.ofWords words) (.word name)) : name ∈ words := by
  generalize hchain : Chain.ofWords words = chain at h
  generalize hplace : Place.word name = place at h
  induction h generalizing words with
  | word =>
    cases hplace
    obtain ⟨more, rfl, -⟩ := chain_ofWords_eq_step hchain
    simp [Atom.words]
  | later _ _ _ ih =>
    obtain ⟨more, rfl, hrest⟩ := chain_ofWords_eq_step hchain
    simp [ih hrest.symm hplace]
  | _ => cases hplace

lemma Meets.mem_words {t : Text} (h : Meets w agent depth t (.word name)) : name ∈ t.words := by
  cases h with
  | first expression =>
    obtain ⟨rest, hwords, -⟩ := exists_words_of_ofWords? expression
    rw [hwords]
    simp [Atom.words]
  | later expression _ later =>
    obtain ⟨rest, hwords, hrest⟩ := exists_words_of_ofWords? expression
    rw [hrest] at later
    rw [hwords]
    exact List.mem_append_right _ later.mem_words

end Words

section Stopping

variable {agent : Agent} {depth inner : Nat} {w w' : World} {code body : Code} {t command e : Text} {stop : Stop}
  {name primitive message trace : Text} {names : List Text}

lemma ComesTo.stops {effects : List Effect} (h : ComesTo agent depth w t command w')
    (hstop : ∀ after, Performs agent depth (command :: after) w' effects (.error stop)) :
    StopsWith agent (depth + 1) w (.commands t) stop := by
  obtain ⟨effects, hturn, -⟩ := h.takesTurn hstop
  exact .commands hturn

lemma Evaluates.stops (h : Evaluates agent depth w code inner w' e) (hvalue : w'.value agent inner e = .error stop) :
    StopsWith agent depth w code stop := by
  cases h with
  | itself => exact .expression hvalue
  | @operand _ _ _ _ command _ p comes head expression =>
    have hfails : Fails agent inner w' p (command.cutAt ' ').2 stop := by
      cases p with
      | createTurtles =>
        cases expression
        exact .amount hvalue
      | set =>
        cases expression
        exact .assignment hvalue
      | _ => cases expression
    exact comes.stops fun _ => .failed head hfails

lemma Calls.stops (h : Calls agent depth w code name inner w' body) (hbody : StopsWith agent inner w' body stop) :
    StopsWith agent depth w code (stop.calledBy name) := by
  cases h with
  | procedure comes head found checked =>
    cases hbody with
    | commands turn =>
      cases turn with
      | tooDeep => exact comes.stops fun _ => .tooDeep head found checked
      | performs performs => exact comes.stops fun _ => .stopped head found checked performs
  | reporter evaluates meets isName noGlobal found =>
    cases hbody with
    | expression value =>
      apply evaluates.stops
      exact value_succ_eq_error_iff.mpr ⟨_, meets, .called isName noGlobal found value⟩

lemma FailsHere.stops (h : FailsHere agent depth w code primitive message) :
    StopsWith agent depth w code (failed message agent primitive) := by
  cases h with
  | error comes head => exact comes.stops fun _ => .failed head .error
  | noNumbers evaluates meets noNumbers =>
    apply evaluates.stops
    exact value_succ_eq_error_iff.mpr ⟨_, meets, .here (.application (apply_of_noNumbers noNumbers))⟩
  | byZero evaluates meets =>
    apply evaluates.stops
    exact value_succ_eq_error_iff.mpr ⟨_, meets, .here (.application (apply_byZero _))⟩

lemma FailsInside.of_operand {p : Primitive} (comes : ComesTo agent depth w t command w')
    (head : Primitive.ofText? (command.cutAt ' ').1 = some p)
    (expression : p.expression? (command.cutAt ' ').2 = some e)
    (h : FailsInside agent depth w' (.expression e) names primitive message) :
    FailsInside agent (depth + 1) w (.commands t) names primitive message := by
  have hevaluates : Evaluates agent (depth + 1) w (.commands t) depth w' e := .operand comes head expression
  cases h with
  | here fails =>
    cases fails with
    | noNumbers evaluates meets noNumbers =>
      cases evaluates
      exact .here (.noNumbers hevaluates meets noNumbers)
    | byZero evaluates meets =>
      cases evaluates
      exact .here (.byZero hevaluates meets)
  | called used calls inside =>
    cases used with
    | word word =>
      cases calls with
      | reporter evaluates meets isName noGlobal found =>
        cases evaluates
        exact .called (.operand comes.mem head expression word)
          (.reporter hevaluates meets isName noGlobal found) inside

lemma failsInside_of_value (h : w.value agent depth t = .error (.fault (.execution message trace))) :
    ∃ primitive names, FailsInside agent depth w (.expression t) names primitive message ∧
      trace = traceText message agent primitive names := by
  induction depth generalizing t trace with
  | zero => cases h
  | succ depth ih =>
    obtain ⟨place, hmeets, hhalts⟩ := value_succ_eq_error_iff.mp h
    generalize hstop : Stop.fault (.execution message trace) = stop at hhalts
    cases hhalts with
    | here stops =>
      cases stops with
      | @application op left right _ applied =>
        have happlies := applies agent op left right
        rw [applied, ← hstop] at happlies
        generalize hresult : Except.error (Stop.fault (.execution message trace)) = result at happlies
        cases happlies with
        | noNumbers noNumbers =>
          rw [failed_eq_fault] at hresult
          cases hresult
          exact ⟨_, _, .here (.noNumbers .itself hmeets noNumbers), rfl⟩
        | byZero =>
          rw [failed_eq_fault] at hresult
          cases hresult
          exact ⟨_, _, .here (.byZero .itself hmeets), rfl⟩
        | _ => cases hresult
      | @unread word fault =>
        obtain ⟨text, hunread⟩ := exists_unreadInteger word fault
        simp [hunread] at hstop
      | @gap left =>
        rcases noOperation_cases left with ⟨message, hrejected⟩ | ⟨-, hunwritten⟩
        · simp [hrejected, rejected] at hstop
        · simp [hunwritten, tooLongInteger] at hstop
      | _ => cases hstop
    | called isName noGlobal found stops =>
      obtain ⟨inner, rfl, rfl⟩ := calledBy_eq_execution_iff.mp hstop.symm
      obtain ⟨primitive, names, hinside, rfl⟩ := ih stops
      have hcalls := Calls.reporter .itself hmeets isName noGlobal found
      exact ⟨primitive, names ++ [_], .called (.word hmeets.mem_words) hcalls hinside, traceText_append.symm⟩

lemma failsInside_of_takesTurn {effects : List Effect}
    (h : TakesTurn agent depth t w effects (.error (.fault (.execution message trace)))) :
    ∃ primitive names, FailsInside agent depth w (.commands t) names primitive message ∧
      trace = traceText message agent primitive names := by
  -- a procedure is called with one level less, and what it leaves to its caller is the same failure with a shorter trace
  induction depth generalizing t w effects trace with
  | zero => cases h
  | succ depth ih =>
    cases h with
    | performs performs =>
      obtain ⟨before, command, after, done, last, htext, -, hdone, hstopped⟩ := performs.exists_stopped
      have hcomes : ComesTo agent depth w t command (applyAll done w) := .after htext hdone
      generalize hended : Except.error (Stop.fault (.execution message trace)) = ended at hstopped
      cases hstopped with
      | primitive _ _ later =>
        subst hended
        cases later
      | called _ _ _ _ later =>
        subst hended
        cases later
      | @failed _ _ _ _ p stop name fails =>
        cases hended
        cases fails with
        | amount value =>
          obtain ⟨primitive, names, hinside, rfl⟩ := failsInside_of_value value
          exact ⟨primitive, names, hinside.of_operand hcomes name rfl, rfl⟩
        | assignment value =>
          obtain ⟨primitive, names, hinside, rfl⟩ := failsInside_of_value value
          exact ⟨primitive, names, hinside.of_operand hcomes name rfl, rfl⟩
        | unwritten _ unwritten => simp [text_eq_error_iff, tooLongInteger] at unwritten
        | error => exact ⟨_, _, .here (.error hcomes name), (List.append_nil _).symm⟩
      | missing => cases hended
      | refused _ _ refused =>
        obtain ⟨message, rfl⟩ := exists_message_of_check refused
        cases hended
      | tooDeep => cases hended
      | stopped name found checked inside =>
        rw [Except.error.injEq, eq_comm, calledBy_eq_execution_iff] at hended
        obtain ⟨inner, rfl, rfl⟩ := hended
        obtain ⟨primitive, names, hinside, rfl⟩ := ih (.performs inside)
        have hcalls := Calls.procedure hcomes name found checked
        exact ⟨primitive, names ++ [_], .called (.head hcomes.mem rfl) hcalls hinside, traceText_append.symm⟩

/-- Code stops with a failure exactly if a primitive fails in it, and the trace is that of the calls around it. -/
theorem stopsWith_execution_iff :
    StopsWith agent depth w code (.fault (.execution message trace)) ↔
      ∃ primitive names, FailsInside agent depth w code names primitive message ∧
        trace = traceText message agent primitive names := by
  constructor
  · intro h
    cases h with
    | commands turn => exact failsInside_of_takesTurn turn
    | expression value => exact failsInside_of_value value
  · rintro ⟨primitive, names, hinside, rfl⟩
    induction hinside with
    | here fails =>
      rw [← failed_eq_fault]
      exact fails.stops
    | called _ calls _ ih =>
      rw [← calledBy_traceText]
      exact calls.stops ih

end Stopping

/-- A trace is that of the calls inside which a primitive fails. Each name in it is used in the body of the next, and
the last one in the text. -/
theorem stackTrace_iff (w : World) (agent : Agent) (depth : Nat) (t message trace : Text) :
    ((execute depth t agent w).1 = .error (.fault (.execution message trace)) ↔
      w.check agent t = .ok () ∧ ∃ times turns, times < turnCount agent w ∧
        TakesTurns agent depth t times w turns (.ok ()) ∧ ∃ primitive names,
          FailsInside agent depth (applyAll turns.flatten w) (.commands t) names primitive message ∧
            trace = traceText message agent primitive names) ∧
      (evaluate depth t agent w = .error (.fault (.execution message trace)) ↔
        ∃ primitive names, FailsInside agent depth w (.expression t) names primitive message ∧
          trace = traceText message agent primitive names) := by
  constructor
  · constructor
    · intro h
      obtain ⟨turns, hexecutes, -⟩ := execute_eq_iff.mp (Prod.ext h rfl)
      generalize hended : Except.error (Stop.fault (.execution message trace)) = ended at hexecutes
      cases hexecutes with
      | refused check =>
        obtain ⟨_, rfl⟩ := exists_message_of_check check
        cases hended
      | taken check takes =>
        subst hended
        obtain ⟨times, done, last, htimes, -, hdone, hlast⟩ := takesTurns_error_iff.mp takes
        exact ⟨check, times, done, htimes, hdone, stopsWith_execution_iff.mp (.commands hlast)⟩
    · rintro ⟨hcheck, times, done, htimes, hdone, htrace⟩
      cases stopsWith_execution_iff.mpr htrace with
      | @commands _ last _ turn =>
        have htakes := takesTurns_error_iff.mpr ⟨times, done, last, htimes, rfl, hdone, turn⟩
        rw [(Executes.taken hcheck htakes).execute]
  · rw [evaluate_eq_error_iff, ← stopsWith_execution_iff]
    constructor
    · rintro (value | ⟨v, -, -, hstop⟩)
      · exact .expression value
      · cases hstop
    · intro h
      cases h with
      | expression value => exact .inl value

example :
    (execute 5 "q".toList .observer
      { procedures := [("p".toList, "set x r".toList), ("q".toList, "p".toList)],
        reporters := [("r".toList, "1 / 0".toList)] }).1 =
      .error (.fault (.execution "Division by zero.".toList
        (traceText "Division by zero.".toList .observer ['/'] ["r".toList, "p".toList, "q".toList]))) := by
  decide +kernel

end SuiteRunner.Proofs
