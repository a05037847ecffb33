import SuiteRunner.TestFile.Blocks
import Mathlib.Data.List.Forall2
import Mathlib.Tactic.Common

/-!
# Blocks of lines

The lines of a file are cut into blocks, each a header with the body lines below it, and a block is read line by
line. Reading succeeds exactly if every body line holds a statement.
-/

namespace SuiteRunner.Proofs
open TestFile

lemma blocks_cons_body {line : Text} (h : isBody line = true) (rest : List Text) :
    blocks (line :: rest) = (line :: (blocks rest).1, (blocks rest).2) := by
  rw [blocks]
  exact if_pos h

lemma blocks_cons_header {line : Text} (h : isBody line = false) (rest : List Text) :
    blocks (line :: rest) = ([], (line, (blocks rest).1) :: (blocks rest).2) := by
  rw [blocks]
  exact if_neg (Bool.eq_false_iff.mp h)

lemma blocks_append_body {body : List Text} (h : ∀ line ∈ body, isBody line = true) (rest : List Text) :
    blocks (body ++ rest) = (body ++ (blocks rest).1, (blocks rest).2) := by
  induction body with
  | nil => rfl
  | cons line body ih =>
    rw [List.cons_append, blocks_cons_body (h line List.mem_cons_self),
      ih fun l hl => h l (List.mem_cons_of_mem line hl)]
    rfl

lemma blocks_append_header {header : Text} (h : isBody header = false) (above below : List Text) :
    blocks (above ++ header :: below) =
      ((blocks above).1, (blocks above).2 ++ (blocks (header :: below)).2) := by
  induction above with
  | nil => rw [List.nil_append, blocks_cons_header h, blocks, List.nil_append]
  | cons line above ih =>
    by_cases hbody : isBody line = true
    · rw [List.cons_append, blocks_cons_body hbody, blocks_cons_body hbody, ih]
    · rw [Bool.not_eq_true] at hbody
      rw [List.cons_append, blocks_cons_header hbody, blocks_cons_header hbody, ih, List.cons_append]

/-- Blocks that are written one below the other are found again. -/
theorem blocks_flatMap {found : List Block} (hheader : ∀ b ∈ found, isBody b.1 = false)
    (hbody : ∀ b ∈ found, ∀ line ∈ b.2, isBody line = true) :
    blocks (found.flatMap fun b => b.1 :: b.2) = ([], found) := by
  induction found with
  | nil => rfl
  | cons b found ih =>
    have hrest := ih (fun c hc => hheader c (List.mem_cons_of_mem b hc))
      (fun c hc => hbody c (List.mem_cons_of_mem b hc))
    rw [List.flatMap_cons, List.cons_append, blocks_cons_header (hheader b List.mem_cons_self),
      blocks_append_body (hbody b List.mem_cons_self), hrest, List.append_nil]

/-- The statements are those of the trimmed lines, one for each. -/
def HoldStatements (body : List Text) (statements : List Statement) : Prop :=
  List.Forall₂ (fun line s => Statement.read line.trim = .ok s) body statements

theorem readBody_eq_ok_iff {file name : Text} {number : Nat} {body : List Text} {statements : List Statement} :
    readBody file name number body = .ok statements ↔ HoldStatements body statements := by
  induction body generalizing number statements with
  | nil =>
    rw [readBody, HoldStatements, List.forall₂_nil_left_iff, Except.ok.injEq, eq_comm]
  | cons line body ih =>
    rw [readBody, HoldStatements, List.forall₂_cons_left_iff]
    cases hread : Statement.read line.trim with
    | error cause => simp
    | ok s =>
      cases hrest : readBody file name (number + 1) body with
      | error e =>
        refine iff_of_false (by simp [Except.map]) ?_
        rintro ⟨s', rest, -, h, -⟩
        have heq : readBody file name (number + 1) body = .ok rest := ih.mpr h
        rw [hrest] at heq
        cases heq
      | ok rest =>
        have hyes : HoldStatements body rest := ih.mp hrest
        constructor
        · intro h
          cases h
          exact ⟨s, rest, rfl, hyes, rfl⟩
        · rintro ⟨s', rest', hs, h, rfl⟩
          cases hs
          have heq : readBody file name (number + 1) body = .ok rest' := ih.mpr h
          rw [hrest] at heq
          cases heq
          rfl

lemma statements_ofStatements (suite name : Text) (statements : List Statement) :
    (TestCase.ofStatements suite name statements).statements = statements := by
  simp [TestCase.ofStatements, TestCase.ofElements]

/-- The test is the one that the block makes up. -/
def HoldsTest (suite : Text) (block : Block) (test : TestCase) : Prop :=
  ∃ statements, HoldStatements block.2 statements ∧ test = TestCase.ofStatements suite block.1.trim statements

theorem readBlocks_eq_ok {suite file : Text} {number : Nat} {found : List Block} {tests : List TestCase}
    (h : List.Forall₂ (HoldsTest suite) found tests) : readBlocks suite file number found = .ok tests := by
  induction h generalizing number with
  | nil => rfl
  | cons htest hrest ih =>
    obtain ⟨statements, hbody, rfl⟩ := htest
    rw [readBlocks, readBody_eq_ok_iff.mpr hbody]
    simp only [ih]
    rfl

/-- The lines of the blocks, one below the other. -/
def blockLines (found : List Block) : List Text :=
  found.flatMap fun b => b.1 :: b.2

lemma readBlocks_append {suite file : Text} {number : Nat} {found : List Block} {tests : List TestCase}
    (h : List.Forall₂ (HoldsTest suite) found tests) (rest : List Block) :
    readBlocks suite file number (found ++ rest) =
      (readBlocks suite file (number + (blockLines found).length) rest).map (tests ++ ·) := by
  induction h generalizing number with
  | nil =>
    simp only [blockLines, List.flatMap_nil, List.length_nil, Nat.add_zero, List.nil_append]
    cases readBlocks suite file number rest <;> rfl
  | @cons b test found tests htest hrest ih =>
    obtain ⟨statements, hbody, rfl⟩ := htest
    have hcount : number + 1 + b.2.length + (blockLines found).length =
        number + (blockLines (b :: found)).length := by
      simp only [blockLines, List.flatMap_cons, List.length_append, List.length_cons]
      omega
    rw [List.cons_append, readBlocks, readBody_eq_ok_iff.mpr hbody]
    simp only [ih, hcount]
    cases readBlocks suite file (number + (blockLines (b :: found)).length) rest <;> rfl

lemma readBody_error {file name : Text} {number : Nat} {body : List Text} {statements : List Statement}
    (h : HoldStatements body statements) {line : Text} {cause : ParseError.Cause}
    (hline : Statement.read line.trim = .error cause) (after : List Text) :
    readBody file name number (body ++ line :: after) =
      .error ⟨cause, some ⟨file, (number + body.length : Nat), some name⟩⟩ := by
  rw [HoldStatements] at h
  induction h generalizing number with
  | nil => simp only [List.nil_append, readBody, hline, List.length_nil, Nat.add_zero]
  | cons hs hrest ih =>
    rw [List.cons_append, readBody, hs]
    simp only [ih, List.length_cons]
    rw [Nat.add_right_comm, Nat.add_assoc]
    rfl

end SuiteRunner.Proofs
