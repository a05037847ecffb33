import SuiteRunner.World.Basic

/-!
Expressions. An expression is a chain of atoms with operators between them, applied from the left without
precedence. An atom is an integer, a truth value, the pair of words for the number of turtles, a global or a
reporter, in this order.
-/

namespace SuiteRunner.World

inductive Operator where
  | add
  | sub
  | mul
  | div
  deriving DecidableEq, Repr

namespace Operator

def text : Operator → Text
  | add => ['+']
  | sub => ['-']
  | mul => ['*']
  | div => ['/']

def ofText? : Text → Option Operator
  | ['+'] => some add
  | ['-'] => some sub
  | ['*'] => some mul
  | ['/'] => some div
  | _ => none

end Operator

inductive Atom where
  | countTurtles
  | word (w : Text)
  deriving DecidableEq, Repr

/-- What follows an atom. A word that is no operator, or an operator with nothing after it, breaks the chain. -/
inductive Chain where
  | done
  | step (op : Operator) (atom : Atom) (rest : Chain)
  | broken
  deriving DecidableEq, Repr

structure Expression where
  first : Atom
  rest : Chain
  deriving DecidableEq, Repr

/-- Whether the two words together are the number of turtles. -/
def isTurtleCount (w next : Text) : Bool :=
  w == "count".toList && next == "turtles".toList

/-- The chain that the words make up. -/
def Chain.ofWords : List Text → Chain
  | [] => done
  | [_] => broken
  | [op, w] =>
    match Operator.ofText? op with
    | none => broken
    | some op => step op (.word w) done
  | op :: w :: next :: rest =>
    match Operator.ofText? op with
    | none => broken
    | some op =>
      if isTurtleCount w next then step op .countTurtles (ofWords rest)
      else step op (.word w) (ofWords (next :: rest))

/-- The expression that the words make up; there is none without words. -/
def Expression.ofWords? : List Text → Option Expression
  | [] => none
  | [w] => some ⟨.word w, .done⟩
  | w :: next :: rest =>
    if isTurtleCount w next then some ⟨.countTurtles, Chain.ofWords rest⟩
    else some ⟨.word w, Chain.ofWords (next :: rest)⟩

/-- A word made of digits after any number of minus signs is taken for an integer. -/
def looksNumeric (w : Text) : Bool :=
  let digits := w.dropWhile (· == '-')
  ! digits.isEmpty && digits.all isDigit

/-- The value of a word. The body of a reporter is handed to `call`. -/
def wordValue (world : World) (call : Text → Except Stop Value) (w : Text) : Except Stop Value :=
  if looksNumeric w then
    match readInt w with
    | .ok n => .ok (.int n)
    | .error fault => .error (.fault (unreadInteger w fault))
  else if w = "true".toList then .ok (.bool true)
  else if w = "false".toList then .ok (.bool false)
  else
    match world.globals.get? w with
    | some value => .ok value
    | none =>
      match world.reporters.get? w with
      | some body => (call body).mapError (Stop.calledBy w)
      | none => .error (.fault (nothingNamed w))

def atomValue (world : World) (call : Text → Except Stop Value) : Atom → Except Stop Value
  | .countTurtles => .ok (.int world.turtles)
  | .word w => wordValue world call w

/-- The quotient as the nearest floating-point number, or as an integer if that number is whole. -/
def quotient (a b : Int) : Except Fault Value :=
  match Binary64.ofRatio (decide (a < 0) != decide (b < 0)) a.natAbs b.natAbs with
  | .infinite _ => .error quotientTooLarge
  | x =>
    match x.toInt? with
    | some n => .ok (.int n)
    | none => .ok (.float x)

/-- Applies the operator to two integers; other operands are no numbers for it. -/
def apply (agent : Agent) (op : Operator) : Value → Value → Except Stop Value
  | .int a, .int b =>
    match op with
    | .add => .ok (.int (a + b))
    | .sub => .ok (.int (a - b))
    | .mul => .ok (.int (a * b))
    | .div =>
      if b = 0 then .error (failed "Division by zero.".toList agent op.text)
      else (quotient a b).mapError Stop.fault
  | _, _ => .error (failed (op.text ++ " expected numbers.".toList) agent op.text)

/-- What follows the value is no operator with an atom. The value is shown, if it can be printed. -/
def noOperation (value : Value) : Stop :=
  match value.text with
  | .ok t => rejected ("Expected an operator and a value after ".toList ++ t ++ ['.'])
  | .error fault => .fault fault

/-- Applies a chain to the value in front of it. -/
def chainValue (world : World) (agent : Agent) (call : Text → Except Stop Value) :
    Value → Chain → Except Stop Value
  | value, .done => .ok value
  | value, .broken => .error (noOperation value)
  | value, .step op atom rest =>
    match atomValue world call atom with
    | .error stop => .error stop
    | .ok right =>
      match apply agent op value right with
      | .error stop => .error stop
      | .ok value => chainValue world agent call value rest

/-- The value of a text, with calls of reporters nested less deeply than the given depth. -/
def value (world : World) (agent : Agent) : Nat → Text → Except Stop Value
  | 0, _ => .error .tooDeep
  | depth + 1, t =>
    match Expression.ofWords? t.words with
    | none => .error (rejected "Expected a reporter.".toList)
    | some e =>
      match atomValue world (value world agent depth) e.first with
      | .error stop => .error stop
      | .ok first => chainValue world agent (value world agent depth) first e.rest

/-- The text of an expression's value. -/
def evaluate (depth : Nat) (t : Text) (agent : Agent) (world : World) : Except Stop Text :=
  match world.value agent depth t with
  | .error stop => .error stop
  | .ok value => value.text.mapError Stop.fault

end SuiteRunner.World
