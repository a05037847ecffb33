import SuiteRunner.Proofs.BinaryNumber
import SuiteRunner.World.Expression

/-!
# How expressions are evaluated

What a word, an operator, a chain and a text can come to, each said once: by a relation where there are many cases, and
by what has to hold for a value and for a stop where there are few.
-/

namespace SuiteRunner.Proofs
open World

section Except

variable {ε ε' α : Type} {f : ε → ε'} {x : Except ε α}

lemma mapError_eq_ok_iff {a : α} : x.mapError f = .ok a ↔ x = .ok a := by
  cases x <;> simp [Except.mapError]

lemma mapError_eq_error_iff {e' : ε'} : x.mapError f = .error e' ↔ ∃ e, x = .error e ∧ f e = e' := by
  cases x <;> simp [Except.mapError]

end Except

/-- The word is no literal. -/
structure IsName (word : Text) : Prop where
  notNumeric : looksNumeric word = false
  notTrue : word ≠ "true".toList
  notFalse : word ≠ "false".toList

/-- What a word comes to. -/
inductive HasWordValue (w : World) (call : Text → Except Stop Value) (word : Text) : Except Stop Value → Prop
  | integer {n : Int} (numeric : looksNumeric word = true) (reads : readInt word = .ok n) :
      HasWordValue w call word (.ok (.int n))
  | unread {fault : IntegerFault} (numeric : looksNumeric word = true) (reads : readInt word = .error fault) :
      HasWordValue w call word (.error (.fault (unreadInteger word fault)))
  | isTrue (word_eq : word = "true".toList) : HasWordValue w call word (.ok (.bool true))
  | isFalse (word_eq : word = "false".toList) : HasWordValue w call word (.ok (.bool false))
  | global {v : Value} (name : IsName word) (found : w.globals.get? word = some v) : HasWordValue w call word (.ok v)
  | reporter {body : Text} (name : IsName word) (noGlobal : w.globals.get? word = none)
      (found : w.reporters.get? word = some body) :
      HasWordValue w call word ((call body).mapError (Stop.calledBy word))
  | unknown (name : IsName word) (noGlobal : w.globals.get? word = none) (noReporter : w.reporters.get? word = none) :
      HasWordValue w call word (.error (.fault (nothingNamed word)))

/-- The floating-point number nearest to the quotient. -/
def nearestQuotient (a b : Int) : Binary64 :=
  Binary64.ofRatio (decide (a < 0) != decide (b < 0)) a.natAbs b.natAbs

/-- What an operator makes of two values. -/
inductive Applies (agent : Agent) : Operator → Value → Value → Except Stop Value → Prop
  | sum {a b : Int} : Applies agent .add (.int a) (.int b) (.ok (.int (a + b)))
  | difference {a b : Int} : Applies agent .sub (.int a) (.int b) (.ok (.int (a - b)))
  | product {a b : Int} : Applies agent .mul (.int a) (.int b) (.ok (.int (a * b)))
  | wholeQuotient {a b n : Int} (nonzero : b ≠ 0) (whole : (nearestQuotient a b).toInt? = some n) :
      Applies agent .div (.int a) (.int b) (.ok (.int n))
  | quotient {a b : Int} (nonzero : b ≠ 0) (finite : (nearestQuotient a b).IsFinite)
      (fraction : (nearestQuotient a b).toInt? = none) :
      Applies agent .div (.int a) (.int b) (.ok (.float (nearestQuotient a b)))
  | tooLarge {a b : Int} {negative : Bool} (nonzero : b ≠ 0) (infinite : nearestQuotient a b = .infinite negative) :
      Applies agent .div (.int a) (.int b) (.error (.fault quotientTooLarge))
  | byZero {a : Int} :
      Applies agent .div (.int a) (.int 0) (.error (failed "Division by zero.".toList agent Operator.div.text))
  | noNumbers {op : Operator} {a b : Value} (noNumbers : ∀ m n, a = .int m → b = .int n → False) :
      Applies agent op a b (.error (failed (op.text ++ " expected numbers.".toList) agent op.text))

lemma hasWordValue (w : World) (call : Text → Except Stop Value) (word : Text) :
    HasWordValue w call word (wordValue w call word) := by
  unfold wordValue
  split
  case isTrue hnumeric =>
    cases hreads : readInt word with
    | ok n => exact .integer hnumeric hreads
    | error fault => exact .unread hnumeric hreads
  case isFalse hnumeric =>
    split
    case isTrue htrue => exact .isTrue htrue
    case isFalse htrue =>
      split
      case isTrue hfalse => exact .isFalse hfalse
      case isFalse hfalse =>
        have hname : IsName word := ⟨by simpa using hnumeric, htrue, hfalse⟩
        cases hglobal : w.globals.get? word with
        | some v => exact .global hname hglobal
        | none =>
          cases hreporter : w.reporters.get? word with
          | some body => exact .reporter hname hglobal hreporter
          | none => exact .unknown hname hglobal hreporter

section Names

variable {w : World} {call : Text → Except Stop Value} {word : Text} (name : IsName word)

include name

lemma wordValue_of_global {v : Value} (found : w.globals.get? word = some v) : wordValue w call word = .ok v := by
  rw [wordValue, if_neg (by simp [name.notNumeric]), if_neg name.notTrue, if_neg name.notFalse, found]

variable (noGlobal : w.globals.get? word = none)

include noGlobal

lemma wordValue_of_reporter {body : Text} (found : w.reporters.get? word = some body) :
    wordValue w call word = (call body).mapError (Stop.calledBy word) := by
  rw [wordValue, if_neg (by simp [name.notNumeric]), if_neg name.notTrue, if_neg name.notFalse, noGlobal, found]

lemma wordValue_of_unknown (noReporter : w.reporters.get? word = none) :
    wordValue w call word = .error (.fault (nothingNamed word)) := by
  rw [wordValue, if_neg (by simp [name.notNumeric]), if_neg name.notTrue, if_neg name.notFalse, noGlobal, noReporter]

end Names

lemma quotient_of_infinite {a b : Int} {negative : Bool} (h : nearestQuotient a b = .infinite negative) :
    World.quotient a b = .error quotientTooLarge := by
  unfold nearestQuotient at h
  unfold World.quotient
  rw [h]

lemma quotient_of_whole {a b n : Int} (h : (nearestQuotient a b).toInt? = some n) :
    World.quotient a b = .ok (.int n) := by
  unfold nearestQuotient at h
  unfold World.quotient
  split
  case h_1 hinfinite =>
    rw [hinfinite] at h
    cases h
  case h_2 => rw [h]

lemma quotient_of_fraction {a b : Int} (hfinite : (nearestQuotient a b).IsFinite)
    (h : (nearestQuotient a b).toInt? = none) : World.quotient a b = .ok (.float (nearestQuotient a b)) := by
  unfold nearestQuotient at h hfinite ⊢
  unfold World.quotient
  split
  case h_1 hinfinite =>
    rw [hinfinite] at hfinite
    exact hfinite.elim
  case h_2 => rw [h]

lemma applies (agent : Agent) (op : Operator) (a b : Value) : Applies agent op a b (World.apply agent op a b) := by
  unfold World.apply
  split
  case h_1 a b =>
    cases op with
    | add => exact .sum
    | sub => exact .difference
    | mul => exact .product
    | div =>
      dsimp only
      split
      case isTrue hzero =>
        subst hzero
        exact .byZero
      case isFalse hzero =>
        rcases Binary64.ofRatio_isFinite (decide (a < 0) != decide (b < 0)) a.natAbs b.natAbs with
          hinfinite | hfinite
        · rw [quotient_of_infinite hinfinite]
          exact .tooLarge hzero hinfinite
        · cases hwhole : (nearestQuotient a b).toInt? with
          | some n =>
            rw [quotient_of_whole hwhole]
            exact .wholeQuotient hzero hwhole
          | none =>
            rw [quotient_of_fraction hfinite hwhole]
            exact .quotient hzero hfinite hwhole
  case h_2 hnumbers => exact .noNumbers hnumbers

section Chains

variable {w : World} {agent : Agent} {call : Text → Except Stop Value} {op : Operator} {atom : Atom} {rest : Chain}
  {first v : Value} {stop : Stop}

lemma chainValue_step_eq_ok_iff :
    chainValue w agent call first (.step op atom rest) = .ok v ↔
      ∃ right next, atomValue w call atom = .ok right ∧ World.apply agent op first right = .ok next ∧
        chainValue w agent call next rest = .ok v := by
  rw [chainValue]
  cases hright : atomValue w call atom with
  | error stop => simp
  | ok right => cases hnext : World.apply agent op first right <;> simp [hnext]

lemma chainValue_step_eq_error_iff :
    chainValue w agent call first (.step op atom rest) = .error stop ↔
      atomValue w call atom = .error stop ∨
        ∃ right, atomValue w call atom = .ok right ∧
          (World.apply agent op first right = .error stop ∨
            ∃ next, World.apply agent op first right = .ok next ∧ chainValue w agent call next rest = .error stop) := by
  rw [chainValue]
  cases hright : atomValue w call atom with
  | error stop => simp
  | ok right => cases hnext : World.apply agent op first right <;> simp [hnext]

lemma value_eq_ok_iff {depth : Nat} {t : Text} :
    w.value agent (depth + 1) t = .ok v ↔
      ∃ e first, Expression.ofWords? t.words = some e ∧ atomValue w (w.value agent depth) e.first = .ok first ∧
        chainValue w agent (w.value agent depth) first e.rest = .ok v := by
  rw [World.value]
  cases he : Expression.ofWords? t.words with
  | none => simp
  | some e => cases hfirst : atomValue w (w.value agent depth) e.first <;> simp [hfirst]

lemma value_eq_error_iff {depth : Nat} {t : Text} :
    w.value agent (depth + 1) t = .error stop ↔
      (Expression.ofWords? t.words = none ∧ stop = rejected "Expected a reporter.".toList) ∨
        ∃ e, Expression.ofWords? t.words = some e ∧
          (atomValue w (w.value agent depth) e.first = .error stop ∨
            ∃ first, atomValue w (w.value agent depth) e.first = .ok first ∧
              chainValue w agent (w.value agent depth) first e.rest = .error stop) := by
  rw [World.value]
  cases he : Expression.ofWords? t.words with
  | none => simp [eq_comm]
  | some e => cases hfirst : atomValue w (w.value agent depth) e.first <;> simp [hfirst]

end Chains

end SuiteRunner.Proofs
