import SuiteRunner.Proofs.CanonicalStatement
import SuiteRunner.Proofs.PlainLines
import SuiteRunner.Proofs.TestBlocks

/-!
# Written files

A list of named tests is written as a file: each name on a line of its own and below it the statements, indented by
two spaces. The main statement is that the file is read as these tests again.
-/

namespace SuiteRunner.Proofs
open TestFile

/-- A name that stands on a line of its own and starts a test. -/
@[mk_iff]
structure IsHeaderName (name : Text) : Prop where
  ne_nil : name ≠ []
  trimmed : name.trim = name
  newline_notMem : '\n' ∉ name
  no_comment : name.head? ≠ some '#'
  no_backslash : name.getLast? ≠ some '\\'

/-- A statement that its own line holds, where this line is neither a comment nor continued in the next one. -/
@[mk_iff]
structure IsBodyStatement (s : Statement) : Prop where
  read_source : Statement.read s.source = .ok s
  newline_notMem : '\n' ∉ s.source
  no_comment : s.source.head? ≠ some '#'
  no_backslash : s.source.getLast? ≠ some '\\'
  trimmed : s.isDefinition = true → s.source.trim = s.source

instance (name : Text) : Decidable (IsHeaderName name) :=
  decidable_of_iff _ (isHeaderName_iff name).symm

instance (s : Statement) : Decidable (IsBodyStatement s) :=
  decidable_of_iff _ (isBodyStatement_iff s).symm

/-- The line of a statement below its test. -/
def bodyLine (s : Statement) : Text :=
  "  ".toList ++ s.source

/-- A name and its statements as they are written. -/
def testText (test : Text × List Statement) : Text :=
  test.1 ++ ['\n'] ++ test.2.flatMap fun s => bodyLine s ++ ['\n']

def fileText (tests : List (Text × List Statement)) : Text :=
  tests.flatMap testText

def testLines (test : Text × List Statement) : List Text :=
  test.1 :: test.2.map bodyLine

lemma testText_eq_joinLines (test : Text × List Statement) : testText test = joinLines (testLines test) := by
  rw [testText, testLines, joinLines_cons, joinLines, List.flatMap_map, List.append_assoc]
  rfl

lemma fileText_eq_joinLines (tests : List (Text × List Statement)) :
    fileText tests = joinLines (tests.flatMap testLines) := by
  rw [fileText, joinLines, List.flatMap_assoc]
  congr 1
  funext test
  exact testText_eq_joinLines test

section Statements

lemma source_flushLeft {s : Statement} (h : IsCanonical s) (hd : s.isDefinition = false) :
    s.source ≠ [] ∧ IsFlushLeft s.source := by
  cases s with
  | definition source => cases hd
  | openModel path => exact ⟨List.cons_ne_nil _ _, isFlushLeft_cons.mpr (by decide)⟩
  | command agent text expected =>
    exact ⟨List.cons_ne_nil _ _, isFlushLeft_cons.mpr (code_facts agent).2.2.2.1⟩
  | expression text expected =>
    obtain ⟨hlead, hne, -⟩ := h
    rw [source_expression]
    exact ⟨List.append_ne_nil_of_left_ne_nil hne _, (isFlushLeft_append hne).mpr hlead.flushLeft⟩

lemma append_write (x : Text) (keyword : Keyword) (payload : Text) :
    x ++ (arrow ++ keyword.write payload) = x ++ (arrow ++ keyword.text) ++ ' ' :: payload := by
  simp [Keyword.write]

lemma exists_source_split {s : Statement} (h : IsCanonical s) (hd : s.isDefinition = false) :
    ∃ a m, s.source = a ++ ' ' :: m ∧ IsFlushRight m := by
  cases s with
  | definition source => cases hd
  | openModel path => exact ⟨"OPEN>".toList, path, rfl, h.flushRight⟩
  | command agent text expected =>
    cases expected with
    | success => exact ⟨[agent.code, '>'], text, by rw [source_command]; simp [CommandOutcome.source], h.flushRight⟩
    | error message =>
      exact ⟨_, message, append_write (agent.code :: '>' :: ' ' :: text) .error message, h.2.flushRight⟩
    | compileError message =>
      exact ⟨_, message, append_write (agent.code :: '>' :: ' ' :: text) .compilerError message, h.2.flushRight⟩
    | stackTrace trace =>
      exact ⟨_, _, append_write (agent.code :: '>' :: ' ' :: text) .stackTrace (Trace.encode trace),
        h.2.2.flushRight⟩
  | expression text expected =>
    obtain ⟨-, -, -, -, hexpected⟩ := h
    cases expected with
    | result value =>
      exact ⟨text ++ [' ', '=', '>'], value, by rw [source_expression]; simp [ExpressionOutcome.source, arrow],
        hexpected.1.flushRight⟩
    | error message => exact ⟨_, message, append_write text .error message, hexpected.flushRight⟩
    | stackTrace trace =>
      exact ⟨_, _, append_write text .stackTrace (Trace.encode trace), hexpected.2.flushRight⟩

lemma getLast?_ne_return {t : Text} (h : IsFlushRight t) : t.getLast? ≠ some '\r' := by
  intro hlast
  have hblank : isBlank '\r' = false := h '\r' hlast
  exact absurd hblank (by decide)

lemma source_no_return {s : Statement} (h : IsBodyStatement s) : s.source.getLast? ≠ some '\r' := by
  have hcanonical := (reads_source_iff s).mp (reads_of_read_eq_ok h.read_source)
  cases hd : s.isDefinition with
  | true => exact getLast?_ne_return ((trim_eq_self_iff _).mp (h.trimmed hd)).2
  | false =>
    obtain ⟨a, m, hsplit, hflush⟩ := exists_source_split hcanonical hd
    rw [hsplit, List.getLast?_append_of_ne_nil _ (List.cons_ne_nil _ _)]
    cases m with
    | nil => decide
    | cons c m =>
      rw [List.getLast?_cons_cons]
      exact getLast?_ne_return hflush

lemma startsDefinition_ne_nil {line : Text} (h : StartsDefinition line) : line ≠ [] := by
  rintro rfl
  obtain ⟨start, hmem, hstart⟩ := h
  rw [List.prefix_nil] at hstart
  subst hstart
  exact absurd hmem (by decide)

lemma IsBodyStatement.flushLeft {s : Statement} (h : IsBodyStatement s) :
    s.source ≠ [] ∧ IsFlushLeft s.source := by
  have hcanonical := (reads_source_iff s).mp (reads_of_read_eq_ok h.read_source)
  cases hd : s.isDefinition with
  | true =>
    cases s with
    | definition source =>
      exact ⟨startsDefinition_ne_nil hcanonical, ((trim_eq_self_iff _).mp (h.trimmed rfl)).1⟩
    | _ => cases hd
  | false => exact source_flushLeft hcanonical hd

lemma isBlank_indent : ∀ c ∈ "  ".toList, isBlank c = true := by
  intro c hc
  have hspaces : c ∈ [' ', ' '] := hc
  obtain rfl : c = ' ' := by simpa using hspaces
  rfl

lemma dropBlank_bodyLine {s : Statement} (h : IsBodyStatement s) : (bodyLine s).dropBlank = s.source := by
  rw [bodyLine, dropBlank_append isBlank_indent, dropBlank_eq_self h.flushLeft.2]

lemma IsBodyStatement.isPlainLine {s : Statement} (h : IsBodyStatement s) : IsPlainLine (bodyLine s) := by
  have hlast : (bodyLine s).getLast? = s.source.getLast? :=
    List.getLast?_append_of_ne_nil _ h.flushLeft.1
  refine ⟨?_, ?_, ?_⟩
  · rw [bodyLine, List.mem_append, not_or]
    exact ⟨by decide, h.newline_notMem⟩
  · rw [hlast]
    exact source_no_return h
  · rw [hlast]
    exact h.no_backslash

lemma hasContent_of_dropBlank {line t : Text} (hline : line.dropBlank = t) (hne : t ≠ [])
    (hcomment : t.head? ≠ some '#') : hasContent line = true := by
  rw [hasContent, hline]
  cases t with
  | nil => exact absurd rfl hne
  | cons c t => simpa using hcomment

lemma Reads.of_trim {line : Text} {s : Statement} (h : Reads line s) (hs : s.isDefinition = false)
    (hd : ¬ StartsDefinition line.trim) : Reads line.trim s := by
  have htrim : line.trim.trim = line.trim := trim_eq_self (isFlushLeft_trim line) (isFlushRight_trim line)
  cases h with
  | definition => cases hs
  | judgedCommand _ hc he => exact .judgedCommand hd (by rwa [htrim]) he
  | expression _ hc hcut => exact .expression hd (by rwa [htrim]) (by rwa [htrim])
  | plainCommand _ hc hcut hp => exact .plainCommand hd (by rwa [htrim]) (by rwa [htrim]) (by rwa [htrim])
  | openModel _ hc hcut hp hm =>
    exact .openModel hd (by rwa [htrim]) (by rwa [htrim]) (by rwa [htrim]) (by rwa [htrim])

lemma Reads.not_startsDefinition {line : Text} {s : Statement} (h : Reads line s) (hs : s.isDefinition = false) :
    ¬ StartsDefinition line := by
  cases h with
  | definition => cases hs
  | judgedCommand hd => exact hd
  | expression hd => exact hd
  | plainCommand hd => exact hd
  | openModel hd => exact hd

lemma startsDefinition_of_dropBlankEnd {line : Text} (h : StartsDefinition line.dropBlankEnd) :
    StartsDefinition line := by
  obtain ⟨start, hmem, hstart⟩ := h
  obtain ⟨b, -, hsplit⟩ := exists_blanks_dropBlankEnd line
  refine ⟨start, hmem, hstart.trans ?_⟩
  exact ⟨b, hsplit.symm⟩

theorem read_trim_bodyLine {s : Statement} (h : IsBodyStatement s) : Statement.read (bodyLine s).trim = .ok s := by
  have hreads := reads_of_read_eq_ok h.read_source
  have htrim : (bodyLine s).trim = s.source.trim := by
    rw [Text.trim, dropBlank_bodyLine h, trim_eq_dropBlankEnd h.flushLeft.2]
  rw [htrim]
  cases hd : s.isDefinition with
  | true =>
    rw [h.trimmed hd]
    exact h.read_source
  | false =>
    refine read_eq_ok_of_reads (hreads.of_trim hd ?_)
    rw [trim_eq_dropBlankEnd h.flushLeft.2]
    exact mt startsDefinition_of_dropBlankEnd (hreads.not_startsDefinition hd)

lemma IsBodyStatement.isBody {s : Statement} (_ : IsBodyStatement s) : isBody (bodyLine s) = true := by
  rfl

lemma IsBodyStatement.hasContent {s : Statement} (h : IsBodyStatement s) :
    TestFile.hasContent (bodyLine s) = true :=
  hasContent_of_dropBlank (dropBlank_bodyLine h) h.flushLeft.1 h.no_comment

end Statements

section Headers

lemma IsHeaderName.flush {name : Text} (h : IsHeaderName name) : IsFlushLeft name ∧ IsFlushRight name :=
  (trim_eq_self_iff name).mp h.trimmed

lemma IsHeaderName.isPlainLine {name : Text} (h : IsHeaderName name) : IsPlainLine name :=
  ⟨h.newline_notMem, getLast?_ne_return h.flush.2, h.no_backslash⟩

lemma IsHeaderName.isBody {name : Text} (h : IsHeaderName name) : TestFile.isBody name = false := by
  have hflush := h.flush.1
  cases name with
  | nil => rfl
  | cons c name => simpa [TestFile.isBody] using isFlushLeft_cons.mp hflush

lemma IsHeaderName.hasContent {name : Text} (h : IsHeaderName name) : TestFile.hasContent name = true :=
  hasContent_of_dropBlank (dropBlank_eq_self h.flush.1) h.ne_nil h.no_comment

end Headers

/-- A test that can be written: its name stands on a line, and so does each statement. -/
def IsWritable (test : Text × List Statement) : Prop :=
  IsHeaderName test.1 ∧ ∀ s ∈ test.2, IsBodyStatement s

lemma logicalLines_fileText {tests : List (Text × List Statement)} (h : ∀ test ∈ tests, IsWritable test) :
    logicalLines (fileText tests) = tests.flatMap testLines := by
  have hmem {line : Text} (hline : line ∈ tests.flatMap testLines) :
      IsPlainLine line ∧ hasContent line = true := by
    obtain ⟨test, htest, hline⟩ := List.mem_flatMap.mp hline
    obtain ⟨hname, hbody⟩ := h test htest
    rcases List.mem_cons.mp hline with rfl | hline
    · exact ⟨hname.isPlainLine, hname.hasContent⟩
    · obtain ⟨s, hs, rfl⟩ := List.mem_map.mp hline
      exact ⟨(hbody s hs).isPlainLine, (hbody s hs).hasContent⟩
  rw [fileText_eq_joinLines]
  exact logicalLines_joinLines (fun line hline => (hmem hline).1) fun line hline => (hmem hline).2

lemma blocks_testLines {tests : List (Text × List Statement)} (h : ∀ test ∈ tests, IsWritable test) :
    blocks (tests.flatMap testLines) = ([], tests.map fun test => (test.1, test.2.map bodyLine)) := by
  have hlines : tests.flatMap testLines =
      (tests.map fun test => (test.1, test.2.map bodyLine)).flatMap fun b => b.1 :: b.2 := by
    rw [List.flatMap_map]
    rfl
  rw [hlines]
  apply blocks_flatMap
  · intro b hb
    obtain ⟨test, htest, rfl⟩ := List.mem_map.mp hb
    exact (h test htest).1.isBody
  · intro b hb line hline
    obtain ⟨test, htest, rfl⟩ := List.mem_map.mp hb
    obtain ⟨s, hs, rfl⟩ := List.mem_map.mp hline
    exact ((h test htest).2 s hs).isBody

lemma holdStatements_bodyLines {statements : List Statement} (h : ∀ s ∈ statements, IsBodyStatement s) :
    HoldStatements (statements.map bodyLine) statements := by
  rw [HoldStatements, List.forall₂_map_left_iff, List.forall₂_same]
  exact fun s hs => read_trim_bodyLine (h s hs)

/-- Tests that are written into a file are read from it again: all of them, in order, each with its name and its
statements, and nothing else. -/
theorem parse_fileText (suite : Text) (file : Option Text) (tests : List (Text × List Statement))
    (h : ∀ test ∈ tests, IsHeaderName test.1 ∧ ∀ s ∈ test.2, IsBodyStatement s) :
    parse suite file (fileText tests) =
        .ok (tests.map fun test => TestCase.ofStatements suite test.1 test.2) ∧
      (tests.map fun test => TestCase.ofStatements suite test.1 test.2).map
        (fun test => (test.name, test.statements)) = tests := by
  have htests : List.Forall₂ (HoldsTest suite) (tests.map fun test => (test.1, test.2.map bodyLine))
      (tests.map fun test => TestCase.ofStatements suite test.1 test.2) := by
    rw [List.forall₂_map_left_iff, List.forall₂_map_right_iff, List.forall₂_same]
    intro test htest
    obtain ⟨hname, hbody⟩ := h test htest
    exact ⟨test.2, holdStatements_bodyLines hbody, by rw [hname.trimmed]⟩
  constructor
  · rw [parse, readLines, logicalLines_fileText h, blocks_testLines h]
    exact readBlocks_eq_ok htests
  · rw [List.map_map]
    refine (List.map_congr_left fun test _ => ?_).trans (List.map_id tests)
    exact Prod.ext rfl (statements_ofStatements suite test.1 test.2)

/-- Two tests with a statement of each kind, one of them with a trace of two lines. -/
def sampleTests : List (Text × List Statement) :=
  [("Counters".toList,
    [.definition "to go  fd 1 end".toList,
      .openModel "models/counter.nlogo".toList,
      .command .turtle "fd 1".toList .success,
      .command .observer "fd 1".toList (.error "no such turtle".toList),
      .command .patch "fdd 1".toList (.compileError "Nothing named fdd".toList),
      .command .link "die".toList (.stackTrace "error\nat die".toList)]),
    ("Reports".toList,
      [.expression "count turtles".toList (.result "10".toList),
        .expression "1 / 0".toList (.error "Division by zero.".toList),
        .expression "item 3 []".toList (.stackTrace "error\nat item".toList)])]

theorem parse_fileText_sampleTests :
    (∀ test ∈ sampleTests, IsHeaderName test.1 ∧ ∀ s ∈ test.2, IsBodyStatement s) ∧
      parse "suite".toList none (fileText sampleTests) =
        .ok (sampleTests.map fun test => TestCase.ofStatements "suite".toList test.1 test.2) ∧
      (sampleTests.map fun test => TestCase.ofStatements "suite".toList test.1 test.2).map
        (fun test => (test.name, test.statements)) = sampleTests := by
  have h : ∀ test ∈ sampleTests, IsHeaderName test.1 ∧ ∀ s ∈ test.2, IsBodyStatement s := by
    decide +kernel
  exact ⟨h, parse_fileText "suite".toList none sampleTests h⟩

end SuiteRunner.Proofs
