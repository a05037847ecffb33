import SuiteRunner.Proofs.Grouping
import SuiteRunner.Proofs.TextSeams

/-!
# Files one below the other

A file below another one is read as it is alone: its tests follow those of the first, and its errors keep all but the
number of the line. The main statement covers both files with all that may be wrong in either.
-/

namespace SuiteRunner.Proofs
open TestFile

/-- The error with so many lines above the text. -/
def moved (count : Nat) (e : ParseError) : ParseError :=
  { e with location := e.location.map fun place => { place with line := place.line + count } }

section Lines

variable {suite : Text} {file : Option Text} {above below : List Text}

lemma startsWithName_append (hne : above ≠ []) : StartsWithName (above ++ below) ↔ StartsWithName above := by
  cases above with
  | nil => exact absurd rfl hne
  | cons line above => exact Iff.rfl

lemma StartsWithName.append (habove : StartsWithName above) (hbelow : StartsWithName below) :
    StartsWithName (above ++ below) := by
  by_cases hne : above = []
  · rw [hne]
    exact hbelow
  · exact (startsWithName_append hne).mpr habove

lemma entries_append (first second : List TestCase) : entries (first ++ second) = entries first ++ entries second :=
  List.flatMap_append

lemma IsGrouping.append {first second : List TestCase} (hfirst : IsGrouping suite above first)
    (hsecond : IsGrouping suite below second) : IsGrouping suite (above ++ below) (first ++ second) := by
  refine .of_entries ?_ (List.forall_mem_append.mpr ⟨hfirst.made, hsecond.made⟩)
  rw [entries_append]
  exact List.rel_append hfirst.lineByLine hsecond.lineByLine

lemma Faults.append {e : ParseError} (h : Faults suite file above e) (below : List Text) :
    Faults suite file (above ++ below) e := by
  cases h with
  | orphan hb => exact .orphan hb
  | @statement _ before _ _ after _ line _ hsplit hstart hbefore hline hread habove hheader hbody =>
    have hne : above ≠ [] := by simp [hsplit]
    have hwhole : above ++ below = before ++ line :: (after ++ below) := by
      rw [hsplit, List.append_assoc, List.cons_append]
    exact .statement hwhole ((startsWithName_append hne).mpr hstart) hbefore hline hread habove hheader hbody

lemma Faults.moved_below {tests : List TestCase} {e : ParseError} (h : Faults suite file below e)
    (habove : IsGrouping suite above tests) (hstart : StartsWithName below) :
    Faults suite file (above ++ below) (moved above.length e) := by
  cases h with
  | orphan hb =>
    rw [hstart _ rfl] at hb
    cases hb
  | @statement _ before upper body after header line cause hsplit _ hbefore hline hread hupper hheader hbody =>
    have haccepted : ∀ l ∈ above ++ before, IsAccepted l :=
      List.forall_mem_append.mpr ⟨isAccepted_of_standsFor habove.lineByLine, hbefore⟩
    have hwhole : above ++ below = above ++ before ++ line :: after := by rw [hsplit, List.append_assoc]
    have hblock : above ++ before = above ++ upper ++ header :: body := by rw [hupper, List.append_assoc]
    have hcount : (above ++ before).length + 1 = before.length + 1 + above.length := by
      rw [List.length_append]
      omega
    have hfault : Faults suite file (above ++ below) _ :=
      .statement hwhole (habove.start.append hstart) haccepted hline hread hblock hheader hbody
    rw [hcount, Int.natCast_add] at hfault
    exact hfault

/-- Lines that start with a name are read below others as they are alone. -/
theorem readLines_append (suite : Text) (file : Option Text) (above : List Text) {below : List Text}
    (hstart : StartsWithName below) :
    readLines suite file (above ++ below) = do
      let first ← readLines suite file above
      let second ← (readLines suite file below).mapError (moved above.length)
      return first ++ second := by
  rcases exists_isGrouping_or_faults suite file above with ⟨first, hfirst⟩ | ⟨e, he⟩
  · rw [readLines_of_isGrouping hfirst]
    rcases exists_isGrouping_or_faults suite file below with ⟨second, hsecond⟩ | ⟨e, he⟩
    · rw [readLines_of_isGrouping hsecond, readLines_of_isGrouping (hfirst.append hsecond)]
      rfl
    · rw [readLines_of_faults he, readLines_of_faults (he.moved_below hfirst hstart)]
      rfl
  · rw [readLines_of_faults he, readLines_of_faults (he.append below)]
    rfl

end Lines

/-- A file is read below another one as it is alone, if the other does not end in the middle of a line and it starts
with the name of a test. The first error counts; one of the second file is that many logical lines further down. -/
theorem parse_append (suite : Text) (file : Option Text) {t₁ t₂ : Text} (hreturn : t₁.getLast? ≠ some '\r')
    (hbackslash : t₁.getLast? ≠ some '\\') (hstart : StartsWithName (logicalLines t₂)) :
    parse suite file (t₁ ++ '\n' :: t₂) = do
      let first ← parse suite file t₁
      let second ← (parse suite file t₂).mapError (moved (logicalLines t₁).length)
      return first ++ second := by
  rw [parse, logicalLines_append_newline hreturn fun h => hbackslash h.1]
  exact readLines_append suite file (logicalLines t₁) hstart

/-- The comment of the first file and the blank line of the second are not counted. -/
theorem parse_append_fault :
    let t₁ : Text := "Sums\n# note\n  1 + 1 => 2".toList
    let t₂ : Text := "\nTurtles\n  X> crt 1".toList
    t₁.getLast? ≠ some '\r' ∧ t₁.getLast? ≠ some '\\' ∧ StartsWithName (logicalLines t₂) ∧
      parse "s".toList none (t₁ ++ '\n' :: t₂) =
        .error ⟨.unrecognizedAgent "X".toList, some ⟨"s".toList, 4, some "Turtles".toList⟩⟩ := by
  have hreturn : "Sums\n# note\n  1 + 1 => 2".toList.getLast? ≠ some '\r' := by decide
  have hbackslash : "Sums\n# note\n  1 + 1 => 2".toList.getLast? ≠ some '\\' := by decide
  have hstart : StartsWithName (logicalLines "\nTurtles\n  X> crt 1".toList) := by
    rw [StartsWithName]
    decide
  refine ⟨hreturn, hbackslash, hstart, ?_⟩
  rw [parse_append _ _ hreturn hbackslash hstart]
  rfl

end SuiteRunner.Proofs
