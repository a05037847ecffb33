import SuiteRunner.Proofs.Evaluation
import SuiteRunner.Proofs.WorldHistory

/-!
# What holds of every world

Definitions that compile give no name to a procedure and to a reporter as well, and leave words with single spaces
between them for each body. Expressions have whole quotients as integers, so that every floating-point number that is
the value of one has a fraction. The main statement is that both hold of a world with any past.
-/

namespace SuiteRunner.World
open Proofs

/-- An integer, a truth value, or a finite floating-point number that is no integer. -/
def Value.IsProper : Value → Prop
  | int _ => True
  | bool _ => True
  | float x => x.IsFinite ∧ ∃ q : ℚ, x.toRat? = some q ∧ ∀ n : Int, q ≠ n

structure Definitions.IsSound (ds : Definitions) : Prop where
  apart : ∀ name, ds.procedures.has name = true → ds.reporters.has name = false
  names : ∀ entry, entry ∈ ds.procedures ∨ entry ∈ ds.reporters → IsWord entry.1
  bodies : ∀ entry, entry ∈ ds.procedures ∨ entry ∈ ds.reporters → IsEvenlySpaced entry.2
  reports : ∀ entry ∈ ds.reporters, entry.2 ≠ []

structure IsSound (w : World) : Prop where
  definitions : Definitions.IsSound ⟨w.procedures, w.reporters⟩
  values : ∀ entry ∈ w.globals, entry.2.IsProper

namespace Definitions

variable {ds ds' : Definitions} {name body : Text}

lemma isSound_empty : IsSound {} := by
  constructor
  case apart => exact fun _ _ => rfl
  case names => rintro entry (h | h) <;> cases h
  case bodies => rintro entry (h | h) <;> cases h
  case reports => exact fun _ h => absurd h List.not_mem_nil

lemma not_defines (h : ds.defines name = false) : ds.procedures.has name = false ∧ ds.reporters.has name = false :=
  Bool.or_eq_false_iff.mp h

lemma IsSound.extended (hds : ds.IsSound) (hname : IsWord name) (hbody : IsEvenlySpaced body)
    (hentry : ∀ entry, entry ∈ ds'.procedures ∨ entry ∈ ds'.reporters →
      entry = (name, body) ∨ entry ∈ ds.procedures ∨ entry ∈ ds.reporters)
    (hapart : ∀ other, ds'.procedures.has other = true → ds'.reporters.has other = false)
    (hreports : ∀ entry ∈ ds'.reporters, entry.2 ≠ []) : ds'.IsSound := by
  refine ⟨hapart, ?names, ?bodies, hreports⟩
  case names =>
    intro entry h
    rcases hentry entry h with rfl | hold
    · exact hname
    · exact hds.names entry hold
  case bodies =>
    intro entry h
    rcases hentry entry h with rfl | hold
    · exact hbody
    · exact hds.bodies entry hold

lemma IsSound.putProcedure (hds : ds.IsSound) (hnew : ds.defines name = false) (hname : IsWord name)
    (hbody : IsEvenlySpaced body) : IsSound { ds with procedures := ds.procedures.put name body } := by
  apply hds.extended hname hbody
  case hentry =>
    rintro entry (h | h)
    · exact (Table.mem_put h).imp id .inl
    · exact .inr (.inr h)
  case hapart =>
    intro other hother
    by_cases hsame : other = name
    · rw [hsame]
      exact (not_defines hnew).2
    · rw [Table.has_put_of_ne hsame] at hother
      exact hds.apart other hother
  case hreports => exact hds.reports

lemma IsSound.putReporter (hds : ds.IsSound) (hnew : ds.defines name = false) (hname : IsWord name)
    (hbody : IsEvenlySpaced body) (hne : body ≠ []) :
    IsSound { ds with reporters := ds.reporters.put name body } := by
  apply hds.extended hname hbody
  case hentry =>
    rintro entry (h | h)
    · exact .inr (.inl h)
    · exact (Table.mem_put h).imp id .inr
  case hapart =>
    intro other hother
    by_cases hsame : other = name
    · rw [hsame, (not_defines hnew).1] at hother
      cases hother
    · rw [Table.has_put_of_ne hsame]
      exact hds.apart other hother
  case hreports =>
    intro entry h
    rcases Table.mem_put h with rfl | hold
    · exact hne
    · exact hds.reports entry hold

lemma IsSound.addBody (hds : ds.IsSound) {reports : Bool} {words : List Text} (hname : IsWord name)
    (hwords : ∀ word ∈ words, IsWord word) (h : ds.addBody reports name words = .ok ds') : ds'.IsSound := by
  unfold Definitions.addBody at h
  split at h
  case isTrue => cases h
  case isFalse hnew =>
    rw [Bool.not_eq_true] at hnew
    split at h
    case isTrue =>
      split at h
      case h_1 head next rest =>
        have hrest : ∀ word ∈ next :: rest, IsWord word := (List.forall_mem_cons.mp hwords).2
        split at h
        case isTrue =>
          cases h
          apply hds.putReporter hnew hname (isEvenlySpaced_unwords hrest)
          exact unwords_ne_nil (hrest next List.mem_cons_self) rest
        case isFalse => cases h
      case h_2 => cases h
    case isFalse =>
      cases h
      exact hds.putProcedure hnew hname (isEvenlySpaced_unwords hwords)

lemma IsSound.addLine (hds : ds.IsSound) {line : Text} (h : ds.addLine line = .ok ds') : ds'.IsSound := by
  have hline : ∀ word ∈ line.words, IsWord word := fun word hword => isWord_of_mem_words hword
  unfold Definitions.addLine at h
  split at h
  case h_1 =>
    cases h
    exact hds
  case h_2 head rest hwords =>
    rw [hwords] at hline
    split at h
    · cases h
      exact hds
    · dsimp only at h
      split at h
      · cases h
      · split at h
        case h_1 name next more =>
          have hrest := (List.forall_mem_cons.mp hline).2
          obtain ⟨hname, hmore⟩ := List.forall_mem_cons.mp hrest
          split at h
          · apply hds.addBody hname _ h
            exact fun word hword => hmore word (List.mem_of_mem_dropLast hword)
          · cases h
        case h_2 => cases h

lemma IsSound.addLines {lines : List Text} (hds : ds.IsSound) (h : lines.foldlM Definitions.addLine ds = .ok ds') :
    ds'.IsSound := by
  induction lines generalizing ds with
  | nil =>
    cases h
    exact hds
  | cons line lines ih =>
    rw [List.foldlM_cons] at h
    cases hadded : ds.addLine line with
    | error fault =>
      rw [hadded] at h
      cases h
    | ok next =>
      rw [hadded] at h
      exact ih (hds.addLine hadded) h

theorem isSound_of_ofSource {source : Text} (h : ofSource source = .ok ds) : ds.IsSound :=
  isSound_empty.addLines h

end Definitions

end SuiteRunner.World

namespace SuiteRunner.Proofs
open World

section Evaluating

lemma isProper_of_applies {agent : Agent} {op : Operator} {a b v : Value} (h : World.apply agent op a b = .ok v) :
    v.IsProper := by
  have happlies := applies agent op a b
  rw [h] at happlies
  cases happlies with
  | sum => trivial
  | difference => trivial
  | product => trivial
  | wholeQuotient => trivial
  | @quotient a b _ finite fraction =>
    refine ⟨finite, ?_⟩
    cases hx : nearestQuotient a b with
    | finite negative mantissa exponent =>
      refine ⟨_, rfl, fun n hn => ?_⟩
      -- a number without a fraction would have been read as an integer
      have hwhole : (nearestQuotient a b).toInt? = some n := by
        rw [hx]
        exact Binary64.toInt?_eq_some_iff.mpr (congrArg some hn)
      rw [fraction] at hwhole
      cases hwhole
    | infinite negative => simp [hx, Binary64.IsFinite] at finite
    | nan => simp [hx, Binary64.IsFinite] at finite

variable {w : World} {agent : Agent} {call : Text → Except Stop Value}

lemma atomValue_isProper (hglobals : ∀ entry ∈ w.globals, entry.2.IsProper)
    (hcall : ∀ t v, call t = .ok v → v.IsProper) {atom : Atom} {v : Value} (h : atomValue w call atom = .ok v) :
    v.IsProper := by
  cases atom with
  | countTurtles =>
    cases h
    trivial
  | word word =>
    have hword := hasWordValue w call word
    change wordValue w call word = .ok v at h
    rw [h] at hword
    generalize hresult : Except.ok v = result at hword
    cases hword with
    | integer =>
      cases hresult
      trivial
    | isTrue =>
      cases hresult
      trivial
    | isFalse =>
      cases hresult
      trivial
    | global _ found =>
      cases hresult
      exact hglobals _ (Table.mem_of_get? found)
    | reporter => exact hcall _ v (mapError_eq_ok_iff.mp hresult.symm)
    | _ => cases hresult

lemma chainValue_isProper {chain : Chain} {first v : Value} (hfirst : first.IsProper)
    (h : chainValue w agent call first chain = .ok v) : v.IsProper := by
  induction chain generalizing first with
  | done =>
    cases h
    exact hfirst
  | broken => cases h
  | step op atom rest ih =>
    obtain ⟨right, next, -, hnext, hrest⟩ := chainValue_step_eq_ok_iff.mp h
    exact ih (isProper_of_applies hnext) hrest

theorem value_isProper (hglobals : ∀ entry ∈ w.globals, entry.2.IsProper) {depth : Nat} {t : Text} {v : Value}
    (h : w.value agent depth t = .ok v) : v.IsProper := by
  induction depth generalizing t v with
  | zero => cases h
  | succ depth ih =>
    have hcall (t : Text) (v : Value) (hv : w.value agent depth t = .ok v) : v.IsProper := ih hv
    obtain ⟨e, first, -, hfirst, hchain⟩ := value_eq_ok_iff.mp h
    exact chainValue_isProper (atomValue_isProper hglobals hcall hfirst) hchain

end Evaluating

section Calling

lemma isSound_compile (source : Text) {w : World} (hw : w.IsSound) : (compile source w).2.IsSound := by
  unfold compile
  cases h : Definitions.ofSource source with
  | error fault => exact hw
  | ok ds => exact ⟨Definitions.isSound_of_ofSource h, hw.values⟩

lemma isSound_openModel (path : Text) {w : World} (hw : w.IsSound) : (openModel path w).2.IsSound := by
  unfold openModel
  split
  · exact ⟨Definitions.isSound_empty, fun _ h => absurd h List.not_mem_nil⟩
  · exact hw

lemma isSound_runPrimitive (agent : Agent) (depth : Nat) (p : Primitive) (rest : Text) {w : World}
    (hw : w.IsSound) : (runPrimitive agent depth p rest w).2.IsSound := by
  cases p with
  | createTurtles =>
    unfold runPrimitive
    cases w.value agent depth rest with
    | error stop => exact hw
    | ok v =>
      cases ht : v.text with
      | error fault =>
        simp only [ht]
        exact hw
      | ok t =>
        cases hn : v.toInt? with
        | none =>
          simp only [ht, hn]
          exact hw
        | some n =>
          simp only [ht, hn]
          exact ⟨hw.definitions, hw.values⟩
  | die => exact ⟨hw.definitions, hw.values⟩
  | clearAll => exact ⟨hw.definitions, fun _ h => absurd h List.not_mem_nil⟩
  | set =>
    unfold runPrimitive
    cases hv : w.value agent depth (rest.cutAt ' ').2 with
    | error stop => simpa [hv] using hw
    | ok v =>
      simp only [hv]
      refine ⟨hw.definitions, fun entry hentry => ?_⟩
      rcases Table.mem_put hentry with rfl | hold
      · exact value_isProper hw.values hv
      · exact hw.values entry hold
  | error => exact hw

end Calling

/-- Whatever calls are made on a new world, and however they end: no name is both that of a procedure and of a
reporter, every name of either is a word, every body is words with single spaces between them, that of a reporter not
without any, and a global is an integer, a truth value, or a finite floating-point number that is no integer, as is the
value of every expression. -/
theorem isSound_afterCalls (history : History) :
    (afterCalls history {}).IsSound ∧
      ∀ depth agent t v, (afterCalls history {}).value agent depth t = .ok v → v.IsProper := by
  have hnew : World.IsSound {} := ⟨Definitions.isSound_empty, fun _ h => absurd h List.not_mem_nil⟩
  have hsound : (afterCalls history {}).IsSound := by
    apply afterCalls_keeps hnew _ _ _ _ history hnew
    · exact fun source w hw => isSound_compile source hw
    · exact fun path w hw => isSound_openModel path hw
    · exact fun w hw => ⟨hw.definitions, hw.values⟩
    · exact fun agent depth p rest w hw => isSound_runPrimitive agent depth p rest hw
  exact ⟨hsound, fun depth agent t v hv => value_isProper hsound.values hv⟩

end SuiteRunner.Proofs
