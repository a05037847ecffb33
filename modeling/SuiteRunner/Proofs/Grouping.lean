import SuiteRunner.Proofs.Flush
import SuiteRunner.Proofs.TestBlocks

/-!
# Lines grouped into tests

Reading the lines of a file gives one entry for each line: the name of a test or a statement of the test above. The
main statement is that nothing is lost, doubled or moved, that reading succeeds exactly if every body line holds a
statement and stands below a name, and that otherwise the first line at fault is reported with its number.
-/

namespace SuiteRunner.Proofs
open TestFile

/-- If the line belongs to a test, it holds a statement. -/
def IsAccepted (line : Text) : Prop :=
  isBody line = true → ∃ s, Statement.read line.trim = .ok s

/-- No line stands above the first name. -/
def StartsWithName (lines : List Text) : Prop :=
  ∀ first ∈ lines.head?, isBody first = false

inductive Entry where
  | name (name : Text)
  | statement (s : Statement)

def Entry.name? : Entry → Option Text
  | name t => some t
  | statement _ => none

/-- Each test with its name and its statements, in order. -/
def entries (tests : List TestCase) : List Entry :=
  tests.flatMap fun test => .name test.name :: test.statements.map .statement

/-- The entry is the one that the line stands for. -/
inductive StandsFor : Text → Entry → Prop where
  | name {line : Text} (h : isBody line = false) : StandsFor line (.name line.trim)
  | statement {line : Text} {s : Statement} (h : isBody line = true) (hs : Statement.read line.trim = .ok s) :
    StandsFor line (.statement s)

/-- The tests are those of the lines: one for each name, and one entry for each line. -/
structure IsGrouping (suite : Text) (lines : List Text) (tests : List TestCase) : Prop where
  names : tests.map TestCase.name = (lines.filter fun line => ! isBody line).map Text.trim
  lineByLine : List.Forall₂ StandsFor lines (entries tests)
  suites : ∀ test ∈ tests, test.suite = suite
  made : ∀ test ∈ tests, test = TestCase.ofStatements suite test.name test.statements

/-- The error of the first line at fault. A file without a name of its own is named after the suite. -/
inductive Faults (suite : Text) (file : Option Text) : List Text → ParseError → Prop where
  | orphan {line : Text} {rest : List Text} (h : isBody line = true) :
    Faults suite file (line :: rest)
      ⟨.orphanLine line, some ⟨(file.filter fun t => ! t.isEmpty).getD suite, 1, none⟩⟩
  | statement {lines before above body after : List Text} {header line : Text} {cause : ParseError.Cause}
    (hsplit : lines = before ++ line :: after) (hstart : StartsWithName lines)
    (hbefore : ∀ l ∈ before, IsAccepted l) (hline : isBody line = true)
    (hread : Statement.read line.trim = .error cause) (habove : before = above ++ header :: body)
    (hheader : isBody header = false) (hbody : ∀ l ∈ body, isBody l = true) :
    Faults suite file lines
      ⟨cause, some ⟨(file.filter fun t => ! t.isEmpty).getD suite, (before.length + 1 : Nat), some header.trim⟩⟩

lemma fileName_eq (suite : Text) (file : Option Text) :
    fileName suite file = (file.filter fun t => ! t.isEmpty).getD suite := by
  rcases file with _ | _ | ⟨c, t⟩ <;> rfl

lemma StartsWithName.of_append {a b : List Text} (h : StartsWithName (a ++ b)) : StartsWithName a := by
  intro first hfirst
  obtain ⟨rest, rfl⟩ := List.head?_eq_some_iff.mp hfirst
  exact h first rfl

lemma isName_trim (t : Text) : TestCase.isName t.trim = true := by
  have hflush := isFlushLeft_trim t
  cases ht : t.trim with
  | nil => rfl
  | cons c rest =>
    rw [ht, isFlushLeft_cons] at hflush
    simp [TestCase.isName, hflush]

section Entries

lemma standsFor_name_iff {line t : Text} : StandsFor line (.name t) ↔ isBody line = false ∧ t = line.trim := by
  constructor
  · intro h
    generalize he : Entry.name t = e at h
    cases h with
    | name hb => exact ⟨hb, Entry.name.inj he⟩
    | statement => cases he
  · rintro ⟨hb, rfl⟩
    exact .name hb

lemma entries_cons (test : TestCase) (tests : List TestCase) :
    entries (test :: tests) = .name test.name :: (test.statements.map .statement ++ entries tests) := by
  simp [entries]

lemma filterMap_name?_entries (tests : List TestCase) : (entries tests).filterMap Entry.name? = tests.map (·.name) := by
  induction tests with
  | nil => rfl
  | cons test tests ih =>
    have hnone : (test.statements.map Entry.statement).filterMap Entry.name? = [] := by
      simp [List.filterMap_map, Function.comp_def, Entry.name?]
    rw [entries_cons, List.filterMap_cons, List.filterMap_append, hnone, ih]
    rfl

lemma names_of_standsFor {lines : List Text} {es : List Entry} (h : List.Forall₂ StandsFor lines es) :
    es.filterMap Entry.name? = (lines.filter fun line => ! isBody line).map Text.trim := by
  induction h with
  | nil => rfl
  | cons hline _ ih =>
    cases hline with
    | name hb =>
      rw [List.filterMap_cons, List.filter_cons_of_pos (by simpa using hb), ih]
      rfl
    | statement hb hs =>
      rw [List.filterMap_cons, List.filter_cons_of_neg (by simpa using hb), ← ih]
      rfl

lemma isAccepted_of_standsFor {lines : List Text} {es : List Entry} (h : List.Forall₂ StandsFor lines es) :
    ∀ line ∈ lines, IsAccepted line := by
  induction h with
  | nil => exact fun _ hline => absurd hline List.not_mem_nil
  | cons hline _ ih =>
    refine List.forall_mem_cons.mpr ⟨?_, ih⟩
    cases hline with
    | name hb =>
      intro hbody
      rw [hb] at hbody
      cases hbody
    | statement hb hs => exact fun _ => ⟨_, hs⟩

lemma IsGrouping.of_entries {suite : Text} {lines : List Text} {tests : List TestCase}
    (h : List.Forall₂ StandsFor lines (entries tests))
    (hmade : ∀ test ∈ tests, test = TestCase.ofStatements suite test.name test.statements) :
    IsGrouping suite lines tests := by
  refine ⟨?_, h, fun test htest => ?_, hmade⟩
  · rw [← names_of_standsFor h, filterMap_name?_entries]
  · rw [hmade test htest]
    rfl

lemma exists_entries (suite : Text) {lines : List Text} (h : ∀ line ∈ lines, IsAccepted line) :
    ∃ (statements : List Statement) (tests : List TestCase),
      List.Forall₂ StandsFor lines (statements.map Entry.statement ++ entries tests) ∧
      ∀ test ∈ tests, test = TestCase.ofStatements suite test.name test.statements := by
  induction lines with
  | nil => exact ⟨[], [], .nil, fun _ htest => absurd htest List.not_mem_nil⟩
  | cons line lines ih =>
    obtain ⟨statements, tests, hrest, hmade⟩ := ih fun l hl => h l (List.mem_cons_of_mem line hl)
    cases hb : isBody line with
    | true =>
      obtain ⟨s, hs⟩ := h line List.mem_cons_self hb
      exact ⟨s :: statements, tests, .cons (.statement hb hs) hrest, hmade⟩
    | false =>
      refine ⟨[], TestCase.ofStatements suite line.trim statements :: tests, ?_, ?_⟩
      · rw [List.map_nil, List.nil_append, entries_cons]
        refine .cons (.name hb) ?_
        rwa [statements_ofStatements]
      · intro test htest
        rcases List.mem_cons.mp htest with rfl | hmem
        · rw [statements_ofStatements]
          rfl
        · exact hmade test hmem

theorem exists_isGrouping (suite : Text) {lines : List Text} (hstart : StartsWithName lines)
    (h : ∀ line ∈ lines, IsAccepted line) : ∃ tests, IsGrouping suite lines tests := by
  obtain ⟨statements, tests, hentries, hmade⟩ := exists_entries suite h
  cases statements with
  | nil => exact ⟨tests, .of_entries hentries hmade⟩
  | cons s statements =>
    cases hentries with
    | cons hline _ =>
      cases hline with
      | statement hb _ =>
        rw [hstart _ rfl] at hb
        cases hb

end Entries

section Blocks

lemma holdStatements_of_standsFor {body : List Text} {statements : List Statement}
    (h : List.Forall₂ StandsFor body (statements.map Entry.statement)) :
    HoldStatements body statements ∧ ∀ line ∈ body, isBody line = true := by
  rw [List.forall₂_map_right_iff] at h
  induction h with
  | nil => exact ⟨.nil, fun _ hline => absurd hline List.not_mem_nil⟩
  | cons hline _ ih =>
    cases hline with
    | statement hb hs =>
      refine ⟨.cons hs ih.1, fun l hl => ?_⟩
      rcases List.mem_cons.mp hl with rfl | hmem
      · exact hb
      · exact ih.2 l hmem

lemma exists_holdStatements {body : List Text} (hbody : ∀ line ∈ body, isBody line = true)
    (h : ∀ line ∈ body, IsAccepted line) : ∃ statements, HoldStatements body statements := by
  induction body with
  | nil => exact ⟨[], .nil⟩
  | cons line body ih =>
    obtain ⟨s, hs⟩ := h line List.mem_cons_self (hbody line List.mem_cons_self)
    obtain ⟨statements, hrest⟩ := ih (fun l hl => hbody l (List.mem_cons_of_mem line hl))
      fun l hl => h l (List.mem_cons_of_mem line hl)
    exact ⟨s :: statements, .cons hs hrest⟩

lemma blocks_of_isGrouping {suite : Text} {lines : List Text} {tests : List TestCase}
    (h : IsGrouping suite lines tests) :
    ∃ found, blocks lines = ([], found) ∧ blockLines found = lines ∧ List.Forall₂ (HoldsTest suite) found tests := by
  suffices hfound : ∃ found, blockLines found = lines ∧ (∀ b ∈ found, isBody b.1 = false) ∧
      (∀ b ∈ found, ∀ line ∈ b.2, isBody line = true) ∧ List.Forall₂ (HoldsTest suite) found tests by
    obtain ⟨found, rfl, hheader, hbody, htests⟩ := hfound
    exact ⟨found, blocks_flatMap hheader hbody, rfl, htests⟩
  obtain ⟨-, hentries, -, hmade⟩ := h
  induction tests generalizing lines with
  | nil =>
    obtain rfl : lines = [] := List.forall₂_nil_right_iff.mp hentries
    exact ⟨[], rfl, by simp, by simp, .nil⟩
  | cons test tests ih =>
    rw [entries_cons, List.forall₂_cons_right_iff] at hentries
    obtain ⟨header, rest, hname, hentries, rfl⟩ := hentries
    obtain ⟨hheader, hname⟩ := standsFor_name_iff.mp hname
    obtain ⟨hholds, hbody⟩ := holdStatements_of_standsFor (List.forall₂_take_append _ _ _ hentries)
    obtain ⟨found, hlines, hheaders, hbodies, htests⟩ := ih (List.forall₂_drop_append _ _ _ hentries)
      fun t ht => hmade t (List.mem_cons_of_mem test ht)
    refine ⟨(header, rest.take (test.statements.map Entry.statement).length) :: found, ?_, ?_, ?_, .cons ?_ htests⟩
    · rw [blockLines, List.flatMap_cons, ← blockLines, hlines, List.cons_append, List.take_append_drop]
    · exact List.forall_mem_cons.mpr ⟨hheader, hheaders⟩
    · exact List.forall_mem_cons.mpr ⟨hbody, hbodies⟩
    · refine ⟨test.statements, hholds, ?_⟩
      rw [← hname]
      exact hmade test List.mem_cons_self

end Blocks

section Reading

variable {suite : Text} {file : Option Text} {lines : List Text}

lemma readLines_of_isGrouping {tests : List TestCase} (h : IsGrouping suite lines tests) :
    readLines suite file lines = .ok tests := by
  obtain ⟨found, hblocks, -, htests⟩ := blocks_of_isGrouping h
  rw [readLines, hblocks]
  exact readBlocks_eq_ok htests

lemma IsGrouping.start {tests : List TestCase} (h : IsGrouping suite lines tests) : StartsWithName lines := by
  rintro first hfirst
  obtain ⟨rest, rfl⟩ := List.head?_eq_some_iff.mp hfirst
  have hentries := h.lineByLine
  cases tests with
  | nil => cases hentries
  | cons test tests =>
    rw [entries_cons, List.forall₂_cons] at hentries
    exact (standsFor_name_iff.mp hentries.1).1

lemma readLines_of_faults {e : ParseError} (h : Faults suite file lines e) : readLines suite file lines = .error e := by
  cases h with
  | orphan hb => rw [readLines, blocks_cons_body hb, fileName_eq]
  | @statement _ before above body after header line cause hsplit hstart hbefore hline hread habove hheader hbody =>
    subst habove
    have habove : ∀ l ∈ above, IsAccepted l := fun l hl => hbefore l (List.mem_append_left _ hl)
    have hbodyAccepted : ∀ l ∈ body, IsAccepted l := fun l hl => hbefore l (by simp [hl])
    rw [hsplit, List.append_assoc] at hstart
    have hfirst := hstart.of_append
    obtain ⟨tests, hgrouping⟩ := exists_isGrouping suite hfirst habove
    obtain ⟨found, hblocks, hcount, htests⟩ := blocks_of_isGrouping hgrouping
    obtain ⟨statements, hholds⟩ := exists_holdStatements hbody hbodyAccepted
    have hlines : lines = above ++ header :: (body ++ line :: after) := by rw [hsplit]; simp
    have hall : blocks lines =
        ([], found ++ (header, body ++ line :: (blocks after).1) :: (blocks after).2) := by
      rw [hlines, blocks_append_header hheader, hblocks, blocks_cons_header hheader, blocks_append_body hbody,
        blocks_cons_body hline]
    have hnumber : 1 + above.length + 1 + body.length = (above ++ header :: body).length + 1 := by
      simp only [List.length_append, List.length_cons]
      omega
    rw [readLines, hall]
    simp only [readBlocks_append htests, hcount, readBlocks, readBody_error hholds hread, hnumber, fileName_eq]
    rfl

lemma exists_above {before : List Text} (hne : before ≠ []) (hstart : StartsWithName before) :
    ∃ above header body, before = above ++ header :: body ∧ isBody header = false ∧ ∀ l ∈ body, isBody l = true := by
  induction before using List.reverseRecOn with
  | nil => exact absurd rfl hne
  | append_singleton before line ih =>
    cases hb : isBody line with
    | false => exact ⟨before, line, [], rfl, hb, by simp⟩
    | true =>
      have hmore : before ≠ [] := by
        rintro rfl
        rw [hstart line rfl] at hb
        cases hb
      obtain ⟨above, header, body, rfl, hheader, hbody⟩ := ih hmore hstart.of_append
      refine ⟨above, header, body ++ [line], by simp, hheader, ?_⟩
      intro l hl
      rcases List.mem_append.mp hl with hmem | hlast
      · exact hbody l hmem
      · rw [List.mem_singleton.mp hlast]
        exact hb

lemma exists_isGrouping_or_faults (suite : Text) (file : Option Text) (lines : List Text) :
    (∃ tests, IsGrouping suite lines tests) ∨ ∃ e, Faults suite file lines e := by
  classical
  by_cases hstart : StartsWithName lines
  · cases hfind : lines.find? fun line => ! decide (IsAccepted line) with
    | none =>
      refine .inl (exists_isGrouping suite hstart fun line hline => ?_)
      simpa using List.find?_eq_none.mp hfind line hline
    | some line =>
      obtain ⟨hfault, before, after, rfl, hbefore⟩ := List.find?_eq_some_iff_append.mp hfind
      have hfault : ¬ IsAccepted line := by simpa using hfault
      have hbefore : ∀ l ∈ before, IsAccepted l := fun l hl => by simpa using hbefore l hl
      obtain ⟨hline, hno⟩ := Classical.not_imp.mp hfault
      cases hread : Statement.read line.trim with
      | ok s => exact absurd ⟨s, hread⟩ hno
      | error cause =>
        have hne : before ≠ [] := by
          rintro rfl
          rw [hstart line rfl] at hline
          cases hline
        obtain ⟨above, header, body, habove, hheader, hbody⟩ := exists_above hne hstart.of_append
        exact .inr ⟨_, .statement rfl hstart hbefore hline hread habove hheader hbody⟩
  · right
    simp only [StartsWithName, not_forall] at hstart
    obtain ⟨first, hfirst, hb⟩ := hstart
    obtain ⟨rest, rfl⟩ := List.head?_eq_some_iff.mp hfirst
    exact ⟨_, .orphan (by simpa using hb)⟩

end Reading

/-- Lines are read into the tests that they make up, and into nothing else; where they make up none, the error is that
of the first line at fault. No name that is read starts with a blank. -/
theorem readLines_account (suite : Text) (file : Option Text) (lines : List Text) :
    ((∃ tests, readLines suite file lines = .ok tests) ↔
        StartsWithName lines ∧ ∀ line ∈ lines, IsAccepted line) ∧
      (∀ tests, readLines suite file lines = .ok tests ↔ IsGrouping suite lines tests) ∧
      (∀ e, readLines suite file lines = .error e ↔ Faults suite file lines e) ∧
      ∀ line ∈ lines, TestCase.isName line.trim = true := by
  have hok (tests : List TestCase) : readLines suite file lines = .ok tests ↔ IsGrouping suite lines tests := by
    refine ⟨fun hread => ?_, readLines_of_isGrouping⟩
    rcases exists_isGrouping_or_faults suite file lines with ⟨found, hfound⟩ | ⟨e, he⟩
    · have hsame : readLines suite file lines = .ok found := readLines_of_isGrouping hfound
      rw [hread, Except.ok.injEq] at hsame
      exact hsame ▸ hfound
    · rw [readLines_of_faults he] at hread
      cases hread
  have herror (e : ParseError) : readLines suite file lines = .error e ↔ Faults suite file lines e := by
    refine ⟨fun hread => ?_, readLines_of_faults⟩
    rcases exists_isGrouping_or_faults suite file lines with ⟨found, hfound⟩ | ⟨e', he⟩
    · rw [readLines_of_isGrouping hfound] at hread
      cases hread
    · have hsame := readLines_of_faults he
      rw [hread, Except.error.injEq] at hsame
      exact hsame ▸ he
  refine ⟨?_, hok, herror, fun line _ => isName_trim line⟩
  simp only [hok]
  constructor
  · rintro ⟨tests, htests⟩
    exact ⟨htests.start, isAccepted_of_standsFor htests.lineByLine⟩
  · rintro ⟨hstart, haccepted⟩
    exact exists_isGrouping suite hstart haccepted

end SuiteRunner.Proofs
