import SuiteRunner.Proofs.Effects
import SuiteRunner.Proofs.WorldHistory

/-!
# The number of turtles

Creating a negative number of turtles and dying more than once are not ruled out, so that the number of turtles can fall
below zero. The main statement is that it does not where agents are orderly in their turns: none creates less than
nothing, a turtle dies once at most and does not clear the world under the others, and no other agent dies.
-/

namespace SuiteRunner.Proofs
open World

/-- What an agent does in one turn keeps to the turtles that there are. -/
structure IsOrderly (agent : Agent) (effects : List Effect) : Prop where
  creates : ∀ n, .created n ∈ effects → 0 ≤ n
  dies : effects.count .died ≤ if agent = .turtle then 1 else 0
  clears : agent = .turtle → .cleared ∉ effects

/-- Which agent has the turn, and what it does in it. -/
abbrev Turn := Agent × List Effect

/-- The turns that are taken in the course of the calls. -/
inductive HasTurns : History → World → List Turn → Prop
  | nil {w : World} : HasTurns [] w []
  | execute {depth : Nat} {t : Text} {agent : Agent} {history : History} {w : World} {turns : List (List Effect)}
      {more : List Turn} {ended : Except Stop Unit} (executes : Executes agent depth t w turns ended)
      (later : HasTurns history (applyAll turns.flatten w) more) :
      HasTurns ((depth, .execute t agent) :: history) w (turns.map (agent, ·) ++ more)
  | other {depth : Nat} {call : CallRecord} {history : History} {w : World} {turns : List Turn}
      (other : ∀ t agent, call ≠ .execute t agent) (later : HasTurns history (afterCall depth call w) turns) :
      HasTurns ((depth, call) :: history) w turns

lemma afterCall_execute (depth : Nat) (t : Text) (agent : Agent) (w : World) :
    afterCall depth (.execute t agent) w = (execute depth t agent w).2 :=
  rfl

theorem exists_hasTurns (history : History) (w : World) : ∃ turns, HasTurns history w turns := by
  induction history generalizing w with
  | nil => exact ⟨_, .nil⟩
  | cons entry history ih =>
    obtain ⟨depth, call⟩ := entry
    by_cases hcall : ∃ t agent, call = .execute t agent
    · obtain ⟨t, agent, rfl⟩ := hcall
      obtain ⟨turns, ended, hexecutes⟩ := exists_executes agent depth t w
      obtain ⟨more, hlater⟩ := ih (applyAll turns.flatten w)
      exact ⟨_, .execute hexecutes hlater⟩
    · obtain ⟨turns, hlater⟩ := ih (afterCall depth call w)
      exact ⟨_, .other (fun t agent h => hcall ⟨t, agent, h⟩) hlater⟩

section Counting

variable {w : World}

lemma le_turtles_applyAll {effects : List Effect} (hcreates : ∀ n, .created n ∈ effects → 0 ≤ n)
    (hclears : .cleared ∉ effects) : w.turtles - effects.count .died ≤ (applyAll effects w).turtles := by
  induction effects generalizing w with
  | nil => simp [applyAll]
  | cons effect effects ih =>
    have hrest := ih (w := effect.apply w) (fun n hn => hcreates n (List.mem_cons_of_mem effect hn))
      fun h => hclears (List.mem_cons_of_mem effect h)
    rw [applyAll_cons]
    cases effect with
    | created n =>
      have hn : 0 ≤ n := hcreates n List.mem_cons_self
      simp only [Effect.apply, List.count_cons, beq_iff_eq, reduceCtorEq, if_false] at hrest ⊢
      omega
    | died =>
      simp only [Effect.apply, List.count_cons, beq_self_eq_true, if_true] at hrest ⊢
      omega
    | cleared => exact absurd List.mem_cons_self hclears
    | assigned name v =>
      simp only [Effect.apply, List.count_cons, beq_iff_eq, reduceCtorEq, if_false] at hrest ⊢
      omega

lemma turtles_applyAll_nonneg {effects : List Effect} (hcreates : ∀ n, .created n ∈ effects → 0 ≤ n)
    (hdies : .died ∉ effects) (hw : 0 ≤ w.turtles) : 0 ≤ (applyAll effects w).turtles := by
  induction effects generalizing w with
  | nil => exact hw
  | cons effect effects ih =>
    rw [applyAll_cons]
    apply ih (fun n hn => hcreates n (List.mem_cons_of_mem effect hn))
    · exact fun h => hdies (List.mem_cons_of_mem effect h)
    · cases effect with
      | created n => exact Int.add_nonneg hw (hcreates n List.mem_cons_self)
      | died => exact absurd List.mem_cons_self hdies
      | cleared => exact Int.le_refl 0
      | assigned => exact hw

variable {agent : Agent} {depth : Nat} {t : Text} {turns : List (List Effect)} {ended : Except Stop Unit}

lemma TakesTurns.le_turtles {times : Nat} (h : TakesTurns .turtle depth t times w turns ended)
    (horderly : ∀ effects ∈ turns, IsOrderly .turtle effects) :
    w.turtles - times ≤ (applyAll turns.flatten w).turtles := by
  -- an orderly turn loses one turtle at most
  have hturn {effects : List Effect} (w : World) (h : IsOrderly .turtle effects) :
      w.turtles - 1 ≤ (applyAll effects w).turtles := by
    have hle := le_turtles_applyAll (w := w) h.creates (h.clears rfl)
    have hdies := h.dies
    simp only [if_true] at hdies
    omega
  induction h with
  | done => simp [applyAll]
  | @stopped times w effects stop _ =>
    have hle := hturn w (horderly effects List.mem_cons_self)
    rw [List.flatten_cons, List.flatten_nil, List.append_nil]
    omega
  | @next times w effects turns ended _ _ ih =>
    have hle := hturn w (horderly effects List.mem_cons_self)
    have hrest := ih fun effects hmem => horderly effects (List.mem_cons_of_mem _ hmem)
    rw [List.flatten_cons, applyAll_append]
    omega

lemma turtles_flatten_nonneg (hagent : agent ≠ .turtle) (horderly : ∀ effects ∈ turns, IsOrderly agent effects)
    (hw : 0 ≤ w.turtles) : 0 ≤ (applyAll turns.flatten w).turtles := by
  apply turtles_applyAll_nonneg _ _ hw
  · intro n hn
    obtain ⟨effects, hmem, hcreated⟩ := List.mem_flatten.mp hn
    exact (horderly effects hmem).creates n hcreated
  · intro hdied
    obtain ⟨effects, hmem, hdied⟩ := List.mem_flatten.mp hdied
    have hdies := (horderly effects hmem).dies
    have hpos : 0 < effects.count .died := List.count_pos_iff.mpr hdied
    simp only [if_neg hagent] at hdies
    omega

/-- As many turtles have a turn as there are at the start, whatever becomes of them. -/
theorem Executes.turtles_nonneg (h : Executes agent depth t w turns ended)
    (horderly : ∀ effects ∈ turns, IsOrderly agent effects) (hw : 0 ≤ w.turtles) :
    0 ≤ (applyAll turns.flatten w).turtles := by
  by_cases hagent : agent = .turtle
  · subst hagent
    cases h with
    | refused => exact hw
    | taken _ takes =>
      have hle := takes.le_turtles horderly
      rw [turnCount, if_pos rfl] at hle
      omega
  · exact turtles_flatten_nonneg hagent horderly hw

lemma afterCall_turtles_nonneg {call : CallRecord} (hcall : ∀ t agent, call ≠ .execute t agent)
    (hw : 0 ≤ w.turtles) : 0 ≤ (afterCall depth call w).turtles := by
  refine afterCall_keeps (P := fun w => 0 ≤ w.turtles) (Int.le_refl 0) ?_ ?_ (fun _ h => h)
    (fun t agent h => absurd h (hcall t agent)) hw
  · intro source w hw
    unfold compile
    cases Definitions.ofSource source <;> exact hw
  · intro path w hw
    unfold openModel
    split
    · exact Int.le_refl 0
    · exact hw

lemma HasTurns.turtles_nonneg {history : History} {turns : List Turn} (h : HasTurns history w turns)
    (horderly : ∀ turn ∈ turns, IsOrderly turn.1 turn.2) (hw : 0 ≤ w.turtles) : 0 ≤ (afterCalls history w).turtles := by
  induction h with
  | nil => exact hw
  | @execute depth t agent history w turns more ended executes _ ih =>
    have hfirst : ∀ effects ∈ turns, IsOrderly agent effects := fun effects hmem =>
      horderly _ (List.mem_append_left more (List.mem_map_of_mem hmem))
    have hworld : afterCall depth (.execute t agent) w = applyAll turns.flatten w := by
      rw [afterCall_execute, executes.execute]
    have hrest := ih (fun turn hmem => horderly turn (List.mem_append_right _ hmem))
      (executes.turtles_nonneg hfirst hw)
    rw [← hworld] at hrest
    exact hrest
  | other hother _ ih => exact ih horderly (afterCall_turtles_nonneg hother hw)

end Counting

/-- There are never less than no turtles in a world in which all turns were orderly, whatever calls were made on it and
however they ended. -/
theorem turtles_nonneg_of_orderly {history : History} {turns : List Turn} (hturns : HasTurns history {} turns)
    (horderly : ∀ turn ∈ turns, IsOrderly turn.1 turn.2) : 0 ≤ (afterCalls history {}).turtles :=
  hturns.turtles_nonneg horderly (Int.le_refl 0)

theorem turtles_nonneg_of_two_deaths :
    let history : History := [(2, .execute "crt 2".toList .observer), (2, .execute "die".toList .turtle)]
    let turns : List Turn := [(.observer, [.created 2]), (.turtle, [.died]), (.turtle, [.died])]
    HasTurns history {} turns ∧ (∀ turn ∈ turns, IsOrderly turn.1 turn.2) ∧
      0 ≤ (afterCalls history {}).turtles := by
  intro history turns
  have hcreate : Executes .observer 2 "crt 2".toList {} [[.created 2]] (.ok ()) := by
    apply Executes.taken (by decide)
    have hdoes : Does .observer 1 {} .createTurtles "2".toList (.created 2) :=
      .created (v := .int 2) (t := ['2']) (by decide) (by decide) rfl
    exact .next (.performs (.primitive (p := .createTurtles) (by decide) hdoes .done)) .done
  have hdie (w : World) : TakesTurn .turtle 2 "die".toList w [.died] (.ok ()) :=
    .performs (.primitive (p := .die) (by decide) .died .done)
  have hdies : Executes .turtle 2 "die".toList { turtles := 2 } [[.died], [.died]] (.ok ()) := by
    apply Executes.taken (by decide)
    exact .next (hdie _) (.next (hdie _) .done)
  have hturns : HasTurns history {} turns := .execute hcreate (.execute hdies .nil)
  have horderly : ∀ turn ∈ turns, IsOrderly turn.1 turn.2 := by
    have hcreated : IsOrderly .observer [.created 2] := ⟨by simp, by decide, by decide⟩
    have hdied : IsOrderly .turtle [.died] := ⟨by simp, by decide, by decide⟩
    simp [turns, hcreated, hdied]
  exact ⟨hturns, horderly, turtles_nonneg_of_orderly hturns horderly⟩

/-- Each of the conditions on orderly turns is needed. -/
theorem turtles_below_zero :
    (afterCalls [(depthLimit, .execute "crt -5".toList .observer)] {}).turtles = -5 ∧
      (afterCalls [(depthLimit, .execute "crt 1".toList .observer),
        (depthLimit, .execute "die ; die".toList .turtle)] {}).turtles = -1 ∧
      (afterCalls [(depthLimit, .compile "to die set x 1 end".toList),
        (depthLimit, .execute "die".toList .observer)] {}).turtles = -1 ∧
      (afterCalls [(depthLimit, .compile "to clear-all set x 1 end".toList),
        (depthLimit, .execute "crt 2".toList .observer),
        (depthLimit, .execute "clear-all ; die".toList .turtle)] {}).turtles = -1 := by
  decide +kernel

end SuiteRunner.Proofs
