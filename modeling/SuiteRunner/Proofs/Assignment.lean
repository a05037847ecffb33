import SuiteRunner.Proofs.Effects
import SuiteRunner.Proofs.Flush
import SuiteRunner.Proofs.StoppedEvaluation
import SuiteRunner.Proofs.WrittenNumbers

/-!
# Assigning and reading

A value does not depend on how deeply calls may be nested, as long as they are not nested too deeply. The main
statement is that an expression is assigned to a global under just the conditions under which it has a value, that the
name is worth this value afterwards, whatever else has the name, and that nothing but this global is changed.
-/

namespace SuiteRunner.Proofs
open World

/-- A word that can be written in a command and is no literal. -/
structure IsVariable (name : Text) : Prop where
  isWord : IsWord name
  isName : IsName name
  noSemicolon : ';' ∉ name

/-- A text that can be written at the end of a command. -/
structure IsArgument (t : Text) : Prop where
  ne_nil : t ≠ []
  trim_eq : t.trim = t
  noSemicolon : ';' ∉ t

/-- The command that assigns an expression to a global. -/
def assignmentText (name expression : Text) : Text :=
  "set ".toList ++ (name ++ ' ' :: expression)

/-- The second world is the first one but for one global. -/
structure DiffersAt (name : Text) (w w' : World) : Prop where
  turtles : w'.turtles = w.turtles
  globals : ∀ other, other ≠ name → w'.globals.get? other = w.globals.get? other
  procedures : w'.procedures = w.procedures
  reporters : w'.reporters = w.reporters
  disposed : w'.disposed = w.disposed

section Depth

variable {w : World} {agent : Agent} {call call' : Text → Except Stop Value}
  (hcall : ∀ t, call t ≠ .error .tooDeep → call' t = call t)

include hcall

lemma wordValue_congr {word : Text} (h : wordValue w call word ≠ .error .tooDeep) :
    wordValue w call' word = wordValue w call word := by
  have hword := hasWordValue w call word
  generalize hresult : wordValue w call word = result at h hword
  cases hword with
  | reporter name noGlobal found =>
    rw [wordValue_of_reporter name noGlobal found, hcall]
    intro hdeep
    rw [hdeep] at h
    exact h rfl
  | integer numeric reads => simp [wordValue, numeric, reads]
  | unread numeric reads => simp [wordValue, numeric, reads]
  | isTrue word_eq => rw [word_eq]; rfl
  | isFalse word_eq => rw [word_eq]; rfl
  | global name found => exact wordValue_of_global name found
  | unknown name noGlobal noReporter => exact wordValue_of_unknown name noGlobal noReporter

lemma atomValue_congr {atom : Atom} (h : atomValue w call atom ≠ .error .tooDeep) :
    atomValue w call' atom = atomValue w call atom := by
  cases atom with
  | countTurtles => rfl
  | word word => exact wordValue_congr hcall h

lemma chainValue_congr {chain : Chain} {left : Value} (h : chainValue w agent call left chain ≠ .error .tooDeep) :
    chainValue w agent call' left chain = chainValue w agent call left chain := by
  induction chain generalizing left with
  | done => rfl
  | broken => rfl
  | step op atom rest ih =>
    have hatom : atomValue w call atom ≠ .error .tooDeep := fun hdeep =>
      h (chainValue_step_eq_error_iff.mpr (.inl hdeep))
    rw [chainValue, chainValue, atomValue_congr hcall hatom]
    cases hright : atomValue w call atom with
    | error stop => rfl
    | ok right =>
      cases hnext : World.apply agent op left right with
      | error stop => simp [hnext]
      | ok next =>
        simp only [hnext]
        exact ih fun hdeep => h (chainValue_step_eq_error_iff.mpr (.inr ⟨right, hright, .inr ⟨next, hnext, hdeep⟩⟩))

omit hcall

/-- What an evaluation comes to is the same where calls may be nested more deeply. -/
theorem value_of_deeper {depth deeper : Nat} {t : Text} (hle : depth ≤ deeper)
    (h : w.value agent depth t ≠ .error .tooDeep) : w.value agent deeper t = w.value agent depth t := by
  -- the bodies of reporters are texts of their own, so that both depths go down together for every text
  induction depth generalizing deeper t with
  | zero => exact absurd rfl h
  | succ depth ih =>
    obtain ⟨deeper, rfl⟩ : ∃ n, deeper = n + 1 := ⟨deeper - 1, by omega⟩
    have hcall (t : Text) (ht : w.value agent depth t ≠ .error .tooDeep) :
        w.value agent deeper t = w.value agent depth t := ih (Nat.le_of_succ_le_succ hle) ht
    have hnot (stop : Stop) (hstop : w.value agent (depth + 1) t = .error stop) : stop ≠ .tooDeep :=
      fun hdeep => h (hdeep ▸ hstop)
    cases hread : Expression.ofWords? t.words with
    | none => rw [World.value, World.value, hread]
    | some e =>
      have hfirst : atomValue w (w.value agent depth) e.first ≠ .error .tooDeep := fun hdeep =>
        hnot _ (value_eq_error_iff.mpr (.inr ⟨e, hread, .inl hdeep⟩)) rfl
      rw [World.value, World.value, hread]
      simp only [atomValue_congr hcall hfirst]
      cases hatom : atomValue w (w.value agent depth) e.first with
      | error stop => rfl
      | ok first =>
        exact chainValue_congr hcall fun hdeep =>
          hnot _ (value_eq_error_iff.mpr (.inr ⟨e, hread, .inr ⟨first, hatom, hdeep⟩⟩)) rfl

end Depth

section Assigning

variable {w : World} {name e : Text}

lemma commands_assignmentText (hname : IsVariable name) (he : IsArgument e) :
    commands (assignmentText name e) = [assignmentText name e] := by
  have hpieces : (assignmentText name e).splitOn ';' = [assignmentText name e] := by
    rw [List.splitOn, List.splitOnP_eq_singleton]
    intro c hmem
    rw [beq_eq_false_iff_ne]
    rintro rfl
    simp only [assignmentText, List.mem_append, List.mem_cons] at hmem
    rcases hmem with hset | hmem | hspace | hmem
    · exact absurd hset (by decide)
    · exact hname.noSemicolon hmem
    · exact absurd hspace (by decide)
    · exact he.noSemicolon hmem
  have hleft : IsFlushLeft (assignmentText name e) := isFlushLeft_cons.mpr rfl
  have hright : IsFlushRight (assignmentText name e) := by
    have hsplit : assignmentText name e = ("set ".toList ++ name ++ [' ']) ++ e := by simp [assignmentText]
    rw [hsplit, isFlushRight_append he.ne_nil]
    exact ((trim_eq_self_iff e).mp he.trim_eq).2
  rw [commands, hpieces, List.map_singleton, trim_eq_self hleft hright]
  rfl

lemma cutAt_assignmentText (name e : Text) :
    (assignmentText name e).cutAt ' ' = (Primitive.set.name, name ++ ' ' :: e) :=
  cutAt_append_cons (a := Primitive.set.name) (by decide) _

lemma cutAt_name (hname : IsVariable name) (e : Text) : Text.cutAt ' ' (name ++ ' ' :: e) = (name, e) :=
  cutAt_append_cons (fun hmem => absurd (hname.isWord.no_blank ' ' hmem) (by decide)) e

lemma check_assignmentText (agent : Agent) (hname : IsVariable name) (he : IsArgument e) :
    w.check agent (assignmentText name e) = .ok () := by
  have hfirst : (assignmentText name e).words.headD [] = Primitive.set.name :=
    firstWord_eq_name (by rw [cutAt_assignmentText])
  have hopen : w.checkName agent Primitive.set.name = .ok () :=
    checkName_eq_ok_iff.mpr (.inr ⟨.set, rfl, by simp [Primitive.IsOpenTo, Primitive.agent?]⟩)
  have hall : w.checkAll agent [assignmentText name e] = .ok () := by
    rw [checkAll_eq_ok_iff]
    simpa only [List.mem_singleton, forall_eq, hfirst] using hopen
  unfold check
  rw [commands_assignmentText hname he]
  exact hall

lemma execute_assignmentText {agent : Agent} (hname : IsVariable name) (he : IsArgument e) (hagent : agent ≠ .turtle)
    (depth : Nat) :
    execute (depth + 1) (assignmentText name e) agent w =
      match w.value agent depth e with
      | .ok v => (.ok (), (Effect.assigned name v).apply w)
      | .error stop => (.error stop, w) := by
  have hcommands := commands_assignmentText hname he
  have hset : Primitive.ofText? ((assignmentText name e).cutAt ' ').1 = some .set := by
    rw [cutAt_assignmentText]
    rfl
  rw [execute_of_check (check_assignmentText agent hname he) hagent, run_of_commands (by simp [hcommands]), hcommands,
    runAll, runCommand_primitive hset, cutAt_assignmentText]
  have hcut : Text.cutAt ' ' (name ++ ' ' :: e) = (name, e) := cutAt_name hname e
  cases hvalue : w.value agent depth e with
  | ok v =>
    have hdoes : Does agent depth w .set (name ++ ' ' :: e) (.assigned name v) := by
      have hassigned : Does agent depth w .set (name ++ ' ' :: e)
          (.assigned (Text.cutAt ' ' (name ++ ' ' :: e)).1 v) := .assigned (by rw [hcut, hvalue])
      rwa [hcut] at hassigned
    rw [hdoes.runPrimitive]
    rfl
  | error stop =>
    have hfails : Fails agent depth w .set (name ++ ' ' :: e) stop :=
      .assignment (by rw [hcut, hvalue])
    rw [hfails.runPrimitive]

lemma value_assigned (hname : IsVariable name) (v : Value) (agent : Agent) (depth : Nat) :
    ((Effect.assigned name v).apply w).value agent (depth + 1) name = .ok v := by
  have hwords : name.words = (Atom.word name).words := words_of_no_blank hname.isWord.ne_nil hname.isWord.no_blank
  rw [value_of_atom hwords]
  exact wordValue_of_global hname.isName (Table.get?_put_self name v w.globals)

lemma differsAt_assigned (name : Text) (v : Value) : DiffersAt name w ((Effect.assigned name v).apply w) :=
  ⟨rfl, fun _ hne => Table.get?_put_of_ne hne v w.globals, rfl, rfl, rfl⟩

end Assigning

/-- The command comes to its end, the name then has this answer for every agent, and nothing else is changed. -/
def Assigns (depth : Nat) (name e : Text) (w : World) (answer : Except Stop Text) : Prop :=
  ∃ w', execute depth (assignmentText name e) .observer w = (.ok (), w') ∧
    (∀ agent inner, evaluate (inner + 1) name agent w' = answer) ∧ DiffersAt name w w'

section Outcomes

variable {w : World} {name e : Text} (hname : IsVariable name) (he : IsArgument e) {depth : Nat}

include hname he

lemma assigns_of_value {v : Value} (hvalue : w.value .observer depth e = .ok v) :
    Assigns (depth + 1) name e w (v.text.mapError Stop.fault) := by
  refine ⟨(Effect.assigned name v).apply w, ?_, fun agent inner => ?_, differsAt_assigned name v⟩
  · rw [execute_assignmentText hname he (by decide), hvalue]
  · rw [evaluate, value_assigned hname]

lemma execute_of_stopped {stop : Stop} (hvalue : w.value .observer depth e = .error stop) :
    execute (depth + 1) (assignmentText name e) .observer w = (.error stop, w) := by
  rw [execute_assignmentText hname he (by decide), hvalue]

end Outcomes

/-- An expression is assigned to a name that is no literal. If there is an answer, the name has it afterwards for every
agent, and nothing but the global of this name is changed. What keeps the expression from having a value stops the
command in the same way, and nothing is changed. A value that cannot be printed is assigned too, and then it is the
name that has no answer. The command has one call less left than the evaluation, and may be stopped by this alone. -/
theorem execute_assignment (w : World) {name e : Text} (hname : IsVariable name) (he : IsArgument e) (depth : Nat) :
    (w.value .observer (depth - 1) e = .error .tooDeep →
      execute depth (assignmentText name e) .observer w = (.error .tooDeep, w)) ∧
    (w.value .observer (depth - 1) e ≠ .error .tooDeep →
      (∀ answer, evaluate depth e .observer w = .ok answer → Assigns depth name e w (.ok answer)) ∧
      ∀ stop, evaluate depth e .observer w = .error stop →
        (w.value .observer depth e = .error stop ∧
          execute depth (assignmentText name e) .observer w = (.error stop, w)) ∨
        ∃ v, w.value .observer depth e = .ok v ∧ IsTooLong v ∧ stop = .fault tooLongInteger ∧
          Assigns depth name e w (.error stop)) := by
  cases depth with
  | zero =>
    refine ⟨fun _ => ?_, fun h => absurd rfl h⟩
    have hchecked := check_assignmentText (w := w) .observer hname he
    rw [execute_of_check hchecked (by decide)]
    rfl
  | succ depth =>
    rw [Nat.add_sub_cancel]
    refine ⟨execute_of_stopped hname he, fun hdeep => ?_⟩
    have hsame : w.value .observer (depth + 1) e = w.value .observer depth e := value_of_deeper (Nat.le_succ depth) hdeep
    refine ⟨fun answer hanswer => ?_, fun stop hstop => ?_⟩
    · obtain ⟨v, hvalue, htext⟩ := evaluate_eq_ok_iff.mp hanswer
      have hassigns := assigns_of_value hname he (hsame ▸ hvalue)
      rwa [htext] at hassigns
    · rcases evaluate_eq_error_iff.mp hstop with hvalue | ⟨v, hvalue, hlong, rfl⟩
      · exact .inl ⟨hvalue, execute_of_stopped hname he (hsame ▸ hvalue)⟩
      · have hassigns := assigns_of_value hname he (hsame ▸ hvalue)
        rw [text_eq_error_iff.mpr ⟨hlong, rfl⟩] at hassigns
        exact .inr ⟨v, hvalue, hlong, rfl, hassigns⟩

lemma isArgument_operationText (op : Operator) (a b : Int) : IsArgument (operationText op a b) := by
  have hword (n : Int) : IsWord (Text.ofInt n) := (isDecimal_ofInt n).isWord
  have hmark (n : Int) : ';' ∉ Text.ofInt n := by
    obtain ⟨digits, -, hdigits, htext⟩ := isDecimal_ofInt n
    have hnot : ';' ∉ digits := fun hmem => absurd (hdigits ';' hmem) (by decide)
    rcases htext with htext | htext <;> simp [htext, hnot]
  have hleft : IsFlushLeft (operationText op a b) := by
    rw [operationText, isFlushLeft_append (hword a).ne_nil]
    exact fun c hc => (hword a).no_blank c (List.mem_of_mem_head? hc)
  have hright : IsFlushRight (operationText op a b) := by
    have hsplit : operationText op a b = (Text.ofInt a ++ ' ' :: op.text ++ [' ']) ++ Text.ofInt b := by
      simp [operationText]
    rw [hsplit, isFlushRight_append (hword b).ne_nil]
    exact fun c hc => (hword b).no_blank c (List.mem_of_mem_getLast? hc)
  refine ⟨by simp [operationText], trim_eq_self hleft hright, ?_⟩
  have hsign : ';' ∉ op.text := by cases op <;> decide
  simp [operationText, hmark, hsign]

theorem execute_assignment_over_reporter :
    let w : World := { turtles := 3, reporters := [("crt".toList, "7".toList)] }
    IsVariable "crt".toList ∧ IsArgument "crt * 2".toList ∧ IsArgument "crt / 0".toList ∧
      Assigns depthLimit "crt".toList "crt * 2".toList w (.ok "14".toList) ∧
      execute depthLimit (assignmentText "crt".toList "crt / 0".toList) .observer w =
        (.error (failed "Division by zero.".toList .observer "/".toList), w) := by
  intro w
  have hname : IsVariable "crt".toList := ⟨by decide, ⟨by decide, by decide, by decide⟩, by decide⟩
  have hproduct : IsArgument "crt * 2".toList := ⟨by decide, by decide, by decide⟩
  have hquotient : IsArgument "crt / 0".toList := ⟨by decide, by decide, by decide⟩
  refine ⟨hname, hproduct, hquotient, ?_, ?_⟩
  · exact ((execute_assignment w hname hproduct depthLimit).2 (by decide +kernel)).1 _ (by decide +kernel)
  · have hstops : evaluate depthLimit "crt / 0".toList .observer w =
        .error (failed "Division by zero.".toList .observer "/".toList) := by decide +kernel
    rcases ((execute_assignment w hname hquotient depthLimit).2 (by decide +kernel)).2 _ hstops with
      ⟨-, hstopped⟩ | ⟨-, -, -, hlong, -⟩
    · exact hstopped
    · exact absurd hlong (by decide)

/-- A product can be too long to be printed though its factors are not. It has no answer, but it is assigned. -/
theorem execute_assignment_unprinted :
    let e := operationText .mul (10 ^ 2200) (10 ^ 2200)
    IsVariable "x".toList ∧ IsArgument e ∧ evaluate depthLimit e .observer {} = .error (.fault tooLongInteger) ∧
      ∃ w', execute depthLimit (assignmentText "x".toList e) .observer {} = (.ok (), w') ∧ w' ≠ {} := by
  intro e
  have hname : IsVariable "x".toList := ⟨by decide, ⟨by decide, by decide, by decide⟩, by decide⟩
  have he : IsArgument e := isArgument_operationText .mul _ _
  have hpower (k : Nat) : ((10 : Int) ^ k).natAbs < 10 ^ maxIntegerDigits ↔ k < maxIntegerDigits := by
    have hten : (10 : Int).natAbs = 10 := rfl
    rw [Int.natAbs_pow, hten]
    exact Nat.pow_lt_pow_iff_right (by decide)
  have hshort := (hpower 2200).mpr (by decide)
  have hvalue (depth : Nat) : World.value {} .observer (depth + 1) e = .ok (.int (10 ^ 2200 * 10 ^ 2200)) :=
    value_operationText_of_lt hshort hshort
  have hlong : IsTooLong (.int (10 ^ 2200 * 10 ^ 2200)) := by
    have hnot := mt (hpower (2200 + 2200)).mp (by decide)
    rw [pow_add] at hnot
    exact ⟨_, rfl, Nat.not_lt.mp hnot⟩
  refine ⟨hname, he, evaluate_eq_error_iff.mpr (.inr ⟨_, hvalue 999, hlong, rfl⟩), ?_⟩
  obtain ⟨w', hexecute, hread, -⟩ := assigns_of_value hname he (hvalue 998)
  refine ⟨w', hexecute, ?_⟩
  rintro rfl
  rw [text_eq_error_iff.mpr ⟨hlong, rfl⟩] at hread
  exact absurd (hread .observer 0) (by decide)

end SuiteRunner.Proofs
