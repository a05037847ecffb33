import SuiteRunner.Proofs.IntegerTexts
import SuiteRunner.Proofs.Words
import SuiteRunner.World.Engine

/-!
# Expressions as left folds

An operand is a text of its own: a single word, or the two words for the number of turtles. An expression is an operand
and operators with an operand each, whatever blanks stand between its words. The main statement is that its value is the
left fold of the operators over the values of the operands, that the first fault on the way is the fault of the whole,
and that no other text has a value. The answer is this value as it is printed, if it can be.
-/

namespace SuiteRunner.World

def Atom.words : Atom → List Text
  | countTurtles => ["count".toList, "turtles".toList]
  | word w => [w]

lemma Operator.ofText?_text (op : Operator) : ofText? op.text = some op := by
  cases op <;> rfl

lemma Operator.eq_text_of_ofText? {t : Text} {op : Operator} (h : ofText? t = some op) : t = op.text := by
  unfold ofText? at h
  split at h <;> cases h <;> rfl

end SuiteRunner.World

namespace SuiteRunner.Proofs
open World

def IsOperand (t : Text) : Prop :=
  ∃ atom : Atom, t.words = atom.words

/-- An operator with the operand after it. -/
abbrev Operation := Operator × Text

def operationWords (operations : List Operation) : List Text :=
  operations.flatMap fun operation => operation.1.text :: operation.2.words

/-- The words are those of the operand and, after it, of the operations. -/
structure IsExpression (words : List Text) (first : Text) (operations : List Operation) : Prop where
  operand : IsOperand first
  operands : ∀ operation ∈ operations, IsOperand operation.2
  words_eq : words = first.words ++ operationWords operations

section Folding

variable (w : World) (agent : Agent) (depth : Nat)

def applyOperation (left : Value) (operation : Operation) : Except Stop Value := do
  let right ← w.value agent depth operation.2
  World.apply agent operation.1 left right

/-- The value of the first operand, to which the operations are applied from the left. -/
def foldOperations (first : Text) (operations : List Operation) : Except Stop Value := do
  let left ← w.value agent depth first
  operations.foldlM (applyOperation w agent depth) left

/-- Each operand is evaluated before the operator in front of it is applied, and nothing before that stops. -/
inductive IsFirstFault (first : Text) (operations : List Operation) (stop : Stop) : Prop
  | first (fails : w.value agent depth first = .error stop)
  | operand {before after : List Operation} {op : Operator} {operand : Text} {left : Value}
      (operations_eq : operations = before ++ (op, operand) :: after)
      (upTo : foldOperations w agent depth first before = .ok left) (fails : w.value agent depth operand = .error stop)
  | operator {before after : List Operation} {op : Operator} {operand : Text} {left right : Value}
      (operations_eq : operations = before ++ (op, operand) :: after)
      (upTo : foldOperations w agent depth first before = .ok left) (value : w.value agent depth operand = .ok right)
      (fails : World.apply agent op left right = .error stop)

end Folding

section Reading

lemma isTurtleCount_iff {word next : Text} :
    isTurtleCount word next = true ↔ word = "count".toList ∧ next = "turtles".toList := by
  simp [isTurtleCount]

lemma isTurtleCount_operator (word : Text) (op : Operator) : isTurtleCount word op.text = false := by
  have hne : (op.text == "turtles".toList) = false := by cases op <;> rfl
  rw [isTurtleCount, hne, Bool.and_false]

lemma operationWords_cons (operation : Operation) (operations : List Operation) :
    operationWords (operation :: operations) =
      operation.1.text :: (operation.2.words ++ operationWords operations) := by
  rw [operationWords, List.flatMap_cons]
  rfl

/-- What follows an atom starts with an operator, which is not taken for the second word of the number of turtles. -/
lemma chain_ofWords_step (op : Operator) (atom : Atom) (operations : List Operation) :
    Chain.ofWords (op.text :: (atom.words ++ operationWords operations)) =
      .step op atom (Chain.ofWords (operationWords operations)) := by
  cases atom with
  | countTurtles =>
    simp only [Atom.words, List.cons_append, List.nil_append]
    rw [Chain.ofWords, op.ofText?_text]
    simp only [isTurtleCount_iff.mpr ⟨rfl, rfl⟩, if_true]
  | word word =>
    cases operations with
    | nil =>
      change Chain.ofWords [op.text, word] = .step op (.word word) .done
      rw [Chain.ofWords, op.ofText?_text]
    | cons operation operations =>
      rw [operationWords_cons]
      simp only [Atom.words, List.cons_append, List.nil_append]
      rw [Chain.ofWords, op.ofText?_text]
      simp only [isTurtleCount_operator, Bool.false_eq_true, if_false]

lemma expression_ofWords?_atom (atom : Atom) (operations : List Operation) :
    Expression.ofWords? (atom.words ++ operationWords operations) =
      some ⟨atom, Chain.ofWords (operationWords operations)⟩ := by
  cases atom with
  | countTurtles =>
    simp only [Atom.words, List.cons_append, List.nil_append]
    rw [Expression.ofWords?]
    simp only [isTurtleCount_iff.mpr ⟨rfl, rfl⟩, if_true]
  | word word =>
    cases operations with
    | nil => rfl
    | cons operation operations =>
      rw [operationWords_cons]
      simp only [Atom.words, List.cons_append, List.nil_append]
      rw [Expression.ofWords?]
      simp only [isTurtleCount_operator, Bool.false_eq_true, if_false]

lemma chain_ofWords_eq_step {words : List Text} {op : Operator} {atom : Atom} {rest : Chain}
    (h : Chain.ofWords words = .step op atom rest) :
    ∃ more, words = op.text :: (atom.words ++ more) ∧ rest = Chain.ofWords more := by
  unfold Chain.ofWords at h
  split at h
  case h_1 => cases h
  case h_2 => cases h
  case h_3 word =>
    split at h
    case h_1 => cases h
    case h_2 hop =>
      cases h
      rw [Operator.eq_text_of_ofText? hop]
      exact ⟨[], rfl, rfl⟩
  case h_4 word next more =>
    split at h
    case h_1 => cases h
    case h_2 hop =>
      rw [Operator.eq_text_of_ofText? hop]
      split at h
      case isTrue hturtles =>
        cases h
        obtain ⟨rfl, rfl⟩ := isTurtleCount_iff.mp hturtles
        exact ⟨more, rfl, rfl⟩
      case isFalse =>
        cases h
        exact ⟨next :: more, rfl, rfl⟩

lemma eq_nil_of_chain_ofWords {words : List Text} (h : Chain.ofWords words = .done) : words = [] := by
  unfold Chain.ofWords at h
  split at h
  case h_1 => rfl
  case h_2 => cases h
  case h_3 => split at h <;> cases h
  case h_4 =>
    split at h
    · cases h
    · split at h <;> cases h

lemma exists_operations {words : List Text} (hwords : ∀ word ∈ words, IsWord word) {w : World} {agent : Agent}
    {call : Text → Except Stop Value} {left v : Value} (h : chainValue w agent call left (Chain.ofWords words) = .ok v) :
    ∃ operations, (∀ operation ∈ operations, IsOperand operation.2) ∧ words = operationWords operations := by
  generalize hchain : Chain.ofWords words = chain at h
  induction chain generalizing words left with
  | done => exact ⟨[], by simp, eq_nil_of_chain_ofWords hchain⟩
  | broken => cases h
  | step op atom rest ih =>
    obtain ⟨more, rfl, rfl⟩ := chain_ofWords_eq_step hchain
    obtain ⟨right, next, -, -, hrest⟩ := chainValue_step_eq_ok_iff.mp h
    obtain ⟨hatom, hmore⟩ := List.forall_mem_append.mp (List.forall_mem_cons.mp hwords).2
    obtain ⟨operations, hoperands, rfl⟩ := ih hmore rfl hrest
    have hatomWords : (Text.unwords atom.words).words = atom.words := words_unwords hatom
    refine ⟨(op, Text.unwords atom.words) :: operations, ?_, ?_⟩
    · exact List.forall_mem_cons.mpr ⟨⟨atom, hatomWords⟩, hoperands⟩
    · rw [operationWords_cons, hatomWords]

end Reading

section Evaluating

variable {w : World} {agent : Agent} {depth : Nat} {left : Value} {t first : Text} {operations : List Operation}

lemma value_of_atom {atom : Atom} (h : t.words = atom.words) :
    w.value agent (depth + 1) t = atomValue w (w.value agent depth) atom := by
  have hread : Expression.ofWords? t.words = some ⟨atom, .done⟩ := by
    rw [h, ← List.append_nil atom.words]
    exact expression_ofWords?_atom atom []
  rw [World.value, hread]
  cases hatom : atomValue w (w.value agent depth) atom <;> simp [hatom, chainValue]

lemma chainValue_eq_foldlM (hoperands : ∀ operation ∈ operations, IsOperand operation.2) :
    chainValue w agent (w.value agent depth) left (Chain.ofWords (operationWords operations)) =
      operations.foldlM (applyOperation w agent (depth + 1)) left := by
  induction operations generalizing left with
  | nil => rfl
  | cons operation operations ih =>
    obtain ⟨⟨atom, hatom⟩, hrest⟩ := List.forall_mem_cons.mp hoperands
    rw [operationWords_cons, hatom, chain_ofWords_step, chainValue, List.foldlM_cons, applyOperation,
      value_of_atom hatom]
    cases hright : atomValue w (w.value agent depth) atom with
    | error stop => rfl
    | ok right =>
      cases hnext : World.apply agent operation.1 left right with
      | error stop => simp [bind, Except.bind, hnext]
      | ok next => simpa [bind, Except.bind, hnext] using ih hrest

theorem value_eq_foldOperations (h : IsExpression t.words first operations) :
    w.value agent depth t = foldOperations w agent depth first operations := by
  cases depth with
  | zero => rfl
  | succ depth =>
    obtain ⟨atom, hatom⟩ := h.operand
    rw [World.value, h.words_eq, hatom, expression_ofWords?_atom, foldOperations, value_of_atom hatom]
    cases hfirst : atomValue w (w.value agent depth) atom with
    | error stop =>
      simp only [hfirst]
      rfl
    | ok left =>
      simp only [hfirst]
      exact chainValue_eq_foldlM h.operands

end Evaluating

section Faults

lemma foldlM_eq_error_iff {ε α β : Type} {f : β → α → Except ε β} {elements : List α} {b : β} {e : ε} :
    elements.foldlM f b = .error e ↔
      ∃ before a after c, elements = before ++ a :: after ∧ before.foldlM f b = .ok c ∧ f c a = .error e := by
  induction elements generalizing b with
  | nil =>
    simp only [List.nil_eq, List.append_eq_nil_iff, reduceCtorEq, and_false, false_and, exists_false, iff_false]
    exact fun h => by cases h
  | cons a elements ih =>
    rw [List.foldlM_cons]
    cases hfirst : f b a with
    | error e' =>
      constructor
      · intro h
        cases h
        exact ⟨[], a, elements, b, rfl, rfl, hfirst⟩
      · rintro ⟨before, a', after, c, hsplit, hbefore, hstops⟩
        cases before with
        | nil =>
          cases hsplit
          cases hbefore
          exact hfirst.symm.trans hstops
        | cons a'' before =>
          cases hsplit
          rw [List.foldlM_cons, hfirst] at hbefore
          cases hbefore
    | ok b' =>
      change elements.foldlM f b' = .error e ↔ _
      rw [ih]
      constructor
      · rintro ⟨before, a', after, c, rfl, hbefore, hstops⟩
        refine ⟨a :: before, a', after, c, rfl, ?_, hstops⟩
        rw [List.foldlM_cons, hfirst]
        exact hbefore
      · rintro ⟨before, a', after, c, hsplit, hbefore, hstops⟩
        cases before with
        | nil =>
          cases hsplit
          cases hbefore
          rw [hfirst] at hstops
          cases hstops
        | cons a'' before =>
          cases hsplit
          rw [List.foldlM_cons, hfirst] at hbefore
          exact ⟨before, a', after, c, rfl, hbefore, hstops⟩

variable {w : World} {agent : Agent} {depth : Nat} {first : Text} {operations : List Operation} {stop : Stop}

lemma applyOperation_eq_error_iff {left : Value} {op : Operator} {operand : Text} :
    applyOperation w agent depth left (op, operand) = .error stop ↔
      w.value agent depth operand = .error stop ∨
        ∃ right, w.value agent depth operand = .ok right ∧ World.apply agent op left right = .error stop := by
  rw [applyOperation]
  cases hright : w.value agent depth operand with
  | error stop' => simp [bind, Except.bind]
  | ok right => simp [bind, Except.bind]

lemma applyOperation_eq_ok_iff {left v : Value} {op : Operator} {operand : Text} :
    applyOperation w agent depth left (op, operand) = .ok v ↔
      ∃ right, w.value agent depth operand = .ok right ∧ World.apply agent op left right = .ok v := by
  rw [applyOperation]
  cases hright : w.value agent depth operand with
  | error stop' => simp [bind, Except.bind]
  | ok right => simp [bind, Except.bind]

lemma foldOperations_of_error (h : w.value agent depth first = .error stop) :
    foldOperations w agent depth first operations = .error stop := by
  rw [foldOperations, h]
  rfl

lemma foldOperations_of_ok {left : Value} (h : w.value agent depth first = .ok left) :
    foldOperations w agent depth first operations = operations.foldlM (applyOperation w agent depth) left := by
  rw [foldOperations, h]
  rfl

theorem foldOperations_eq_error_iff :
    foldOperations w agent depth first operations = .error stop ↔
      IsFirstFault w agent depth first operations stop := by
  cases hfirst : w.value agent depth first with
  | error stop' =>
    rw [foldOperations_of_error hfirst, Except.error.injEq]
    constructor
    · rintro rfl
      exact .first hfirst
    · intro h
      cases h with
      | first fails => exact Except.error.inj (hfirst.symm.trans fails)
      | operand _ upTo => simp [foldOperations_of_error hfirst] at upTo
      | operator _ upTo => simp [foldOperations_of_error hfirst] at upTo
  | ok left =>
    rw [foldOperations_of_ok hfirst, foldlM_eq_error_iff]
    constructor
    · rintro ⟨before, ⟨op, operand⟩, after, value, hsplit, hbefore, hstops⟩
      rw [← foldOperations_of_ok hfirst] at hbefore
      rcases applyOperation_eq_error_iff.mp hstops with hoperand | ⟨right, hright, happly⟩
      · exact .operand hsplit hbefore hoperand
      · exact .operator hsplit hbefore hright happly
    · intro h
      cases h with
      | first fails => simp [hfirst] at fails
      | @operand before after op operand value operations_eq upTo fails =>
        rw [foldOperations_of_ok hfirst] at upTo
        exact ⟨before, (op, operand), after, value, operations_eq, upTo, applyOperation_eq_error_iff.mpr (.inl fails)⟩
      | @operator before after op operand value right operations_eq upTo hright fails =>
        rw [foldOperations_of_ok hfirst] at upTo
        exact ⟨before, (op, operand), after, value, operations_eq, upTo,
          applyOperation_eq_error_iff.mpr (.inr ⟨right, hright, fails⟩)⟩

end Faults

lemma exists_words_of_ofWords? {words : List Text} {e : Expression} (h : Expression.ofWords? words = some e) :
    ∃ rest, words = e.first.words ++ rest ∧ e.rest = Chain.ofWords rest := by
  unfold Expression.ofWords? at h
  split at h
  case h_1 => cases h
  case h_2 word =>
    cases h
    exact ⟨[], rfl, rfl⟩
  case h_3 word next rest =>
    split at h
    case isTrue hturtles =>
      cases h
      obtain ⟨rfl, rfl⟩ := isTurtleCount_iff.mp hturtles
      exact ⟨rest, rfl, rfl⟩
    case isFalse =>
      cases h
      exact ⟨next :: rest, rfl, rfl⟩

lemma exists_isExpression {w : World} {agent : Agent} {depth : Nat} {t : Text} {v : Value}
    (h : w.value agent depth t = .ok v) : ∃ first operations, IsExpression t.words first operations := by
  cases depth with
  | zero => cases h
  | succ depth =>
    obtain ⟨e, left, he, -, hchain⟩ := value_eq_ok_iff.mp h
    obtain ⟨rest, hwords, hrest⟩ := exists_words_of_ofWords? he
    have hword : ∀ word ∈ e.first.words ++ rest, IsWord word := fun word hmem =>
      isWord_of_mem_words (hwords ▸ hmem)
    obtain ⟨hfirst, hothers⟩ := List.forall_mem_append.mp hword
    rw [hrest] at hchain
    obtain ⟨operations, hoperands, rfl⟩ := exists_operations hothers hchain
    have hoperand : (Text.unwords e.first.words).words = e.first.words := words_unwords hfirst
    refine ⟨Text.unwords e.first.words, operations, ⟨e.first, hoperand⟩, hoperands, ?_⟩
    rw [hoperand]
    exact hwords

/-- An expression has the value of its fold from the left, and the fault that comes first when the operands are
evaluated and the operators applied in turn. A text that is no expression has no value. The answer of an evaluation is
the value as it is printed, and there is none where nothing stops the fold only if the value is an integer with too
many digits. -/
theorem evaluate_eq_fold (w : World) (agent : Agent) (depth : Nat) (t : Text) :
    (∀ first operations, IsExpression t.words first operations →
      w.value agent depth t = foldOperations w agent depth first operations ∧
        (∀ stop, w.value agent depth t = .error stop ↔ IsFirstFault w agent depth first operations stop) ∧
        ∀ stop, evaluate depth t agent w = .error stop ↔
          IsFirstFault w agent depth first operations stop ∨
            ∃ v, foldOperations w agent depth first operations = .ok v ∧ IsTooLong v ∧ stop = .fault tooLongInteger) ∧
      (∀ v, w.value agent depth t = .ok v ↔
        ∃ first operations, IsExpression t.words first operations ∧
          foldOperations w agent depth first operations = .ok v) ∧
      ∀ answer, evaluate depth t agent w = .ok answer ↔
        ∃ v, w.value agent depth t = .ok v ∧ v.text = .ok answer := by
  refine ⟨fun first operations hexpression => ?_, fun v => ⟨fun hvalue => ?_, ?_⟩, fun answer => evaluate_eq_ok_iff⟩
  · have hvalue : w.value agent depth t = foldOperations w agent depth first operations :=
      value_eq_foldOperations hexpression
    refine ⟨hvalue, fun stop => ?_, fun stop => ?_⟩
    · rw [hvalue, foldOperations_eq_error_iff]
    · rw [evaluate_eq_error_iff, hvalue, foldOperations_eq_error_iff]
  · obtain ⟨first, operations, hexpression⟩ := exists_isExpression hvalue
    exact ⟨first, operations, hexpression, (value_eq_foldOperations hexpression).symm.trans hvalue⟩
  · rintro ⟨first, operations, hexpression, hfold⟩
    rw [value_eq_foldOperations hexpression, hfold]

theorem evaluate_eq_fold_without_precedence :
    let w : World := { turtles := 2, globals := [("x".toList, .int 3)] }
    let operations : List Operation := [(.sub, "count turtles".toList), (.mul, "x".toList)]
    IsExpression (Text.words "10 -\tcount  turtles * x".toList) "10".toList operations ∧
      w.value .patch 1 "10 -\tcount  turtles * x".toList = foldOperations w .patch 1 "10".toList operations ∧
      foldOperations w .patch 1 "10".toList operations = .ok (.int 24) ∧
      evaluate 1 "10 -\tcount  turtles * x".toList .patch w = .ok "24".toList := by
  intro w operations
  have hexpression : IsExpression (Text.words "10 -\tcount  turtles * x".toList) "10".toList operations := by
    refine ⟨⟨.word "10".toList, by decide⟩, ?_, by decide⟩
    simp only [operations, List.forall_mem_cons]
    exact ⟨⟨.countTurtles, by decide⟩, ⟨.word "x".toList, by decide⟩, by simp⟩
  have hfold : foldOperations w .patch 1 "10".toList operations = .ok (.int 24) := by decide
  obtain ⟨hall, -, hanswers⟩ := evaluate_eq_fold w .patch 1 "10 -\tcount  turtles * x".toList
  have hvalue := (hall _ _ hexpression).1
  exact ⟨hexpression, hvalue, hfold, (hanswers _).mpr ⟨_, hvalue.trans hfold, by decide⟩⟩

end SuiteRunner.Proofs
