import SuiteRunner.Proofs.JoinedFiles

/-!
# Notes between the lines

A note is a line that is blank or a comment. Put between the lines of a file it changes nothing, unless it ends with a
backslash in front of an indented line that is no note: that line is read as part of it and is lost. The main statement
is that the outcome is then another one, but for files in which the lost line and the line that moves into its place are
at fault in the same way.
-/

namespace SuiteRunner.Proofs
open TestFile

/-- The first character that is not blank, if there is one, starts a comment. -/
def IsNote (line : Text) : Prop :=
  ∀ c ∈ line.dropBlank.head?, c = '#'

/-- What stands in front of the first line feed. -/
def firstLine (t : Text) : Text :=
  t.takeWhile (· ≠ '\n')

/-- The note goes on in the line below it, which is none. -/
structure TakesLine (note below : Text) : Prop where
  goesOn : note.getLast? = some '\\'
  indented : "  ".toList <+: below
  notNote : ¬ IsNote (firstLine below)

section FirstLine

lemma hasContent_eq_true_iff {line : Text} : hasContent line = true ↔ ¬ IsNote line := by
  rw [hasContent, IsNote]
  cases line.dropBlank with
  | nil => simp
  | cons c rest => simp

lemma hasContent_eq_false_iff {line : Text} : hasContent line = false ↔ IsNote line := by
  rw [← Bool.not_eq_true, hasContent_eq_true_iff, not_not]

lemma isNote_firstLine_cons {c : Char} {t : Text} :
    IsNote (firstLine (c :: t)) ↔ c = '\n' ∨ c = '#' ∨ (isBlank c = true ∧ IsNote (firstLine t)) := by
  by_cases hfeed : c = '\n'
  · simp [hfeed, firstLine, IsNote, Text.dropBlank]
  · have hline : firstLine (c :: t) = c :: firstLine t := by simp [firstLine, hfeed]
    rw [hline]
    by_cases hblank : isBlank c = true
    · have hmark : c ≠ '#' := by
        rintro rfl
        exact absurd hblank (by decide)
      rw [IsNote, dropBlank_cons hblank, ← IsNote]
      simp [hfeed, hmark, hblank]
    · have hflush : IsFlushLeft (c :: firstLine t) := isFlushLeft_cons.mpr (by simpa using hblank)
      rw [IsNote, dropBlank_eq_self hflush]
      simp [hfeed, hblank]

lemma Replaces.isNote_firstLine {f : Text → Text} {pattern replacement : Text} (hf : Replaces f pattern replacement)
    (hsame : ∀ t u, IsNote (firstLine (replacement ++ t)) ↔ IsNote (firstLine (pattern ++ u))) (t : Text) :
    IsNote (firstLine (f t)) ↔ IsNote (firstLine t) := by
  induction t with
  | nil => rw [hf.nil]
  | cons c t ih =>
    by_cases hfound : pattern <+: c :: t
    · obtain ⟨u, hu⟩ := hfound
      rw [← hu, hf.found]
      exact hsame (f u) u
    · rw [hf.passed c t hfound, isNote_firstLine_cons, isNote_firstLine_cons, ih]

lemma isNote_firstLine_folded (t : Text) :
    IsNote (firstLine (foldContinuations (dropCarriageReturns t))) ↔ IsNote (firstLine t) := by
  have hreturn : isBlank '\r' = true := by decide
  have hbackslash : isBlank '\\' = false := by decide
  rw [foldContinuations_replaces.isNote_firstLine fun t u => by simp [isNote_firstLine_cons, hbackslash],
    dropCarriageReturns_replaces.isNote_firstLine fun t u => by simp [isNote_firstLine_cons, hreturn]]

lemma lines_append {a t l : Text} {ls : List Text} (ha : '\n' ∉ a) (h : t.lines = l :: ls) :
    (a ++ t).lines = (a ++ l) :: ls := by
  induction a with
  | nil => exact h
  | cons c a ih =>
    rw [List.mem_cons, not_or] at ha
    have htail := ih ha.2
    rw [Text.lines] at htail
    rw [List.cons_append, Text.lines, List.splitOn_cons_eq_if_modifyHead, htail, if_neg (by simpa using Ne.symm ha.1)]
    rfl

lemma exists_lines_eq (t : Text) : ∃ ls, t.lines = firstLine t :: ls := by
  induction t with
  | nil => exact ⟨[], rfl⟩
  | cons c t ih =>
    by_cases hfeed : c = '\n'
    · subst hfeed
      exact ⟨Text.lines t, lines_append_newline [] t⟩
    · obtain ⟨ls, hls⟩ := ih
      have hline : firstLine (c :: t) = c :: firstLine t := by simp [firstLine, hfeed]
      rw [hline]
      exact ⟨ls, lines_append (a := [c]) (by simpa using Ne.symm hfeed) hls⟩

lemma exists_foldedLines_eq (t : Text) :
    ∃ first rest, foldedLines t = first :: rest ∧ (IsNote first ↔ IsNote (firstLine t)) := by
  obtain ⟨rest, hlines⟩ := exists_lines_eq (foldContinuations (dropCarriageReturns t))
  exact ⟨_, rest, hlines, isNote_firstLine_folded t⟩

end FirstLine

section Taking

variable {note below : Text}

lemma Replaces.append_found {f : Text → Text} {d : Char} {p replacement : Text}
    (hf : Replaces f (d :: '\n' :: p) replacement) (hd : d ≠ '\n') {a : Text} (ha : '\n' ∉ a) (t : Text) :
    f (a ++ (d :: '\n' :: p ++ t)) = a ++ (replacement ++ f t) := by
  induction a with
  | nil => exact hf.found t
  | cons c a ih =>
    rw [List.mem_cons, not_or] at ha
    have hnot : ¬ d :: '\n' :: p <+: c :: (a ++ (d :: '\n' :: p ++ t)) := by
      rw [List.cons_prefix_cons]
      rintro ⟨-, hnext⟩
      cases a with
      | nil => exact hd (List.cons_prefix_cons.mp hnext).1.symm
      | cons e a => exact ha.2 (List.mem_cons.mpr (.inl (List.cons_prefix_cons.mp hnext).1))
    rw [List.cons_append, hf.passed c _ hnot, ih ha.2, List.cons_append]

lemma dropCarriageReturns_eq_self {t : Text} (h : '\n' ∉ t) : dropCarriageReturns t = t :=
  dropCarriageReturns_replaces.eq_self fun hp => h (hp.subset (by simp))

lemma foldedLines_eq_singleton {t : Text} (h : '\n' ∉ t) : foldedLines t = [t] := by
  have hfold : foldContinuations t = t := foldContinuations_replaces.eq_self fun hp => h (hp.subset (by simp))
  have hlines : (t ++ []).lines = [t ++ []] := lines_append h rfl
  rw [List.append_nil] at hlines
  rw [foldedLines, dropCarriageReturns_eq_self h, hfold, hlines]

lemma foldedLines_space {t l : Text} {ls : List Text} (h : foldedLines t = l :: ls) :
    foldedLines (' ' :: t) = (' ' :: l) :: ls := by
  rw [foldedLines, dropCarriageReturns_cons (by simp), foldContinuations_cons (by simp)]
  exact lines_append (a := [' ']) (by simp) h

lemma foldedLines_continued {a t l : Text} {ls : List Text} (ha : '\n' ∉ a) (h : foldedLines t = l :: ls) :
    foldedLines (a ++ '\\' :: '\n' :: ' ' :: ' ' :: t) = (a ++ '\\' :: 'n' :: l) :: ls := by
  have hline : '\n' ∉ a ++ ['\\'] := by simp [ha]
  have hescape : '\n' ∉ a ++ ['\\', 'n'] := by simp [ha]
  have hreturns : dropCarriageReturns (a ++ '\\' :: '\n' :: ' ' :: ' ' :: t) =
      a ++ (['\\', '\n', ' ', ' '] ++ dropCarriageReturns t) := by
    rw [List.append_cons, dropCarriageReturns_append_newline (by simp), dropCarriageReturns_eq_self hline,
      dropCarriageReturns_cons (by simp), dropCarriageReturns_cons (by simp)]
    simp
  have hlines := lines_append hescape h
  rw [List.append_assoc, List.append_assoc] at hlines
  rw [foldedLines, hreturns, foldContinuations_replaces.append_found (by decide) ha]
  exact hlines

lemma isNote_append_backslash {a : Text} (h : IsNote (a ++ ['\\'])) (t : Text) : IsNote (a ++ '\\' :: t) := by
  have hflush (t : Text) : Text.dropBlank ('\\' :: t) = '\\' :: t :=
    dropBlank_eq_self (isFlushLeft_cons.mpr (by decide))
  -- the backslash starts no comment, so the mark of one stands in front of it
  by_cases hblank : a.dropBlank = []
  · rw [IsNote, dropBlank_append (dropBlank_eq_nil_iff.mp hblank), hflush] at h
    exact absurd (h _ rfl) (by decide)
  · rw [IsNote, dropBlank_append_of_ne_nil hblank, List.head?_append_of_ne_nil _ hblank] at h ⊢
    exact h

lemma exists_foldedLines_continued (hline : '\n' ∉ note) (hnote : IsNote note) (hend : note.getLast? = some '\\')
    (hindent : "  ".toList <+: below) :
    ∃ first joined rest, foldedLines below = first :: rest ∧ isBody first = true ∧
      (IsNote first ↔ IsNote (firstLine below)) ∧ foldedLines (note ++ '\n' :: below) = joined :: rest ∧ IsNote joined := by
  obtain ⟨a, rfl⟩ := List.getLast?_eq_some_iff.mp hend
  obtain ⟨t, rfl⟩ := hindent
  have ha : '\n' ∉ a := fun h => hline (List.mem_append_left _ h)
  have hblank : isBlank ' ' = true := by decide
  obtain ⟨l, ls, hl, -⟩ := exists_foldedLines_eq t
  have hbelow : foldedLines ("  ".toList ++ t) = (' ' :: ' ' :: l) :: ls := foldedLines_space (foldedLines_space hl)
  obtain ⟨first, rest, hfirst, hsame⟩ := exists_foldedLines_eq ("  ".toList ++ t)
  rw [hbelow] at hfirst
  obtain ⟨rfl, rfl⟩ := List.cons.inj hfirst
  refine ⟨_, a ++ '\\' :: 'n' :: l, ls, hbelow, hblank, hsame, ?_, isNote_append_backslash hnote _⟩
  rw [List.append_assoc]
  exact foldedLines_continued ha hl

lemma filter_hasContent_cons {line : Text} (h : IsNote line) (ls : List Text) :
    (line :: ls).filter hasContent = ls.filter hasContent :=
  List.filter_cons_of_neg (by simpa using hasContent_eq_false_iff.mpr h)

lemma logicalLines_note (hreturn : note.getLast? ≠ some '\r') (hline : '\n' ∉ note) (hnote : IsNote note)
    (h : ¬ TakesLine note below) : logicalLines (note ++ '\n' :: below) = logicalLines below := by
  by_cases hfold : note.getLast? = some '\\' ∧ "  ".toList <+: below
  · obtain ⟨hend, hindent⟩ := hfold
    have hfirst : IsNote (firstLine below) := by
      by_contra hcontent
      exact h ⟨hend, hindent, hcontent⟩
    obtain ⟨first, joined, rest, hbelow, -, hsame, hjoined, hcomment⟩ :=
      exists_foldedLines_continued hline hnote hend hindent
    rw [logicalLines_eq, logicalLines_eq, hjoined, hbelow, filter_hasContent_cons hcomment,
      filter_hasContent_cons (hsame.mpr hfirst)]
  · have hnone : logicalLines note = [] := by
      rw [logicalLines_eq, foldedLines_eq_singleton hline, filter_hasContent_cons hnote, List.filter_nil]
    rw [logicalLines_append_newline hreturn hfold, hnone, List.nil_append]

lemma exists_logicalLines_of_takesLine (hline : '\n' ∉ note) (hnote : IsNote note) (h : TakesLine note below) :
    ∃ taken rest, isBody taken = true ∧ logicalLines below = taken :: rest ∧
      logicalLines (note ++ '\n' :: below) = rest := by
  obtain ⟨first, joined, rest, hbelow, hbody, hsame, hjoined, hcomment⟩ :=
    exists_foldedLines_continued hline hnote h.goesOn h.indented
  have hcontent : hasContent first = true := hasContent_eq_true_iff.mpr fun hfirst => h.notNote (hsame.mp hfirst)
  refine ⟨first, rest.filter hasContent, hbody, ?_, ?_⟩
  · rw [logicalLines_eq, hbelow, List.filter_cons_of_pos hcontent]
  · rw [logicalLines_eq, hjoined, filter_hasContent_cons hcomment]

end Taking

section Reading

variable {suite : Text} {file : Option Text} {lines above below : List Text}

open Classical in
/-- How many lines stand above the first that holds no statement where one belongs. -/
noncomputable def firstFault (lines : List Text) : Nat :=
  lines.findIdx fun line => ! decide (IsAccepted line)

lemma firstFault_append (h : ∀ line ∈ above, IsAccepted line) (below : List Text) :
    firstFault (above ++ below) = above.length + firstFault below := by
  have hnone : firstFault above = above.length := by
    rw [firstFault, List.findIdx_eq_length]
    simpa using h
  rw [firstFault] at hnone
  rw [firstFault, List.findIdx_append, hnone, if_neg (Nat.lt_irrefl _), Nat.add_comm]
  rfl

lemma faults_of_readLines {e : ParseError} (h : readLines suite file lines = .error e) : Faults suite file lines e := by
  rcases exists_isGrouping_or_faults suite file lines with ⟨tests, htests⟩ | ⟨e', he⟩
  · rw [readLines_of_isGrouping htests] at h
    cases h
  · rw [readLines_of_faults he, Except.error.injEq] at h
    exact h ▸ he

lemma Faults.line_le {e : ParseError} (h : Faults suite file lines e) :
    ∃ number : Nat, e.location.map Location.line = some (number : Int) ∧ number ≤ lines.length := by
  cases h with
  | orphan hb => exact ⟨1, rfl, by simp⟩
  | @statement _ before _ _ after _ line _ hsplit hstart hbefore hline hread habove hheader hbody =>
    refine ⟨before.length + 1, rfl, ?_⟩
    rw [hsplit, List.length_append, List.length_cons]
    omega

lemma Faults.line_eq {e : ParseError} (h : Faults suite file lines e) (hstart : StartsWithName lines) :
    e.location.map Location.line = some ((firstFault lines + 1 : Nat) : Int) := by
  cases h with
  | orphan hb =>
    rw [hstart _ rfl] at hb
    cases hb
  | @statement _ before _ _ after _ line _ hsplit hstart hbefore hline hread habove hheader hbody =>
    have hno : ¬ IsAccepted line := by
      intro haccepted
      obtain ⟨s, hs⟩ := haccepted hline
      rw [hread] at hs
      cases hs
    have hhere : firstFault (line :: after) = 0 := by simp [firstFault, List.findIdx_cons, hno]
    rw [hsplit, firstFault_append hbefore, hhere]
    rfl

lemma Faults.lt_line {tests : List TestCase} {e : ParseError} (h : Faults suite file (above ++ below) e)
    (habove : IsGrouping suite above tests) (hne : above ≠ []) :
    ∃ number : Nat, e.location.map Location.line = some (number : Int) ∧ above.length < number := by
  refine ⟨_, h.line_eq ((startsWithName_append hne).mpr habove.start), ?_⟩
  rw [firstFault_append (isAccepted_of_standsFor habove.lineByLine)]
  omega

lemma readLines_error_append {e : ParseError} (h : readLines suite file above = .error e) (below : List Text) :
    readLines suite file (above ++ below) = .error e :=
  readLines_of_faults ((faults_of_readLines h).append below)

lemma readLines_without_body_ne {taken : Text} (hbody : isBody taken = true) {tests : List TestCase}
    (h : IsGrouping suite (above ++ [taken]) tests) :
    readLines suite file (above ++ below) ≠ readLines suite file (above ++ taken :: below) := by
  have haccepted := isAccepted_of_standsFor h.lineByLine
  have hne : above ≠ [] := by
    rintro rfl
    have hname := h.start taken rfl
    rw [hbody] at hname
    cases hname
  have hstart : StartsWithName above := (startsWithName_append hne).mp h.start
  rw [List.append_cons]
  rcases exists_isGrouping_or_faults suite file (above ++ below) with ⟨without, hwithout⟩ | ⟨e, he⟩ <;>
    rcases exists_isGrouping_or_faults suite file (above ++ [taken] ++ below) with ⟨whole, hwhole⟩ | ⟨e', he'⟩
  · rw [readLines_of_isGrouping hwithout, readLines_of_isGrouping hwhole]
    -- one entry more is read
    intro heq
    have hcount := hwithout.lineByLine.length_eq
    rw [Except.ok.inj heq, ← hwhole.lineByLine.length_eq] at hcount
    simp at hcount
  · rw [readLines_of_isGrouping hwithout, readLines_of_faults he']
    exact nofun
  · rw [readLines_of_faults he, readLines_of_isGrouping hwhole]
    exact nofun
  · rw [readLines_of_faults he, readLines_of_faults he']
    -- the first fault below is one line further down
    intro heq
    have hnumber := he.line_eq ((startsWithName_append hne).mpr hstart)
    have hnumber' := he'.line_eq ((startsWithName_append (by simp)).mpr h.start)
    rw [firstFault_append fun l hl => haccepted l (List.mem_append_left _ hl)] at hnumber
    rw [firstFault_append haccepted, ← Except.error.inj heq, hnumber] at hnumber'
    rw [Option.some.injEq, Int.ofNat_inj, List.length_append, List.length_singleton] at hnumber'
    omega

lemma readLines_error_of_le {e : ParseError} (h : readLines suite file (above ++ below) = .error e) (hne : above ≠ [])
    {number : Nat} (hnumber : e.location.map Location.line = some (number : Int)) (hle : number ≤ above.length) :
    readLines suite file above = .error e := by
  rcases exists_isGrouping_or_faults suite file above with ⟨tests, htests⟩ | ⟨e', he'⟩
  · obtain ⟨number', hnumber', hgt⟩ := (faults_of_readLines h).lt_line htests hne
    rw [hnumber, Option.some.injEq, Int.ofNat_inj] at hnumber'
    omega
  · have herror := readLines_of_faults he'
    rw [readLines_error_append herror below] at h
    rw [herror, h]

/-- Reading does not tell whether a body line is there only if this line and the one below it are at fault in the same
way, or a line above them is. -/
theorem readLines_without_body_iff {taken : Text} (hbody : isBody taken = true) :
    readLines suite file (above ++ below) = readLines suite file (above ++ taken :: below) ↔
      ∃ e, readLines suite file (above ++ [taken]) = .error e ∧ readLines suite file (above ++ below.take 1) = .error e := by
  constructor
  · intro hsame
    rcases exists_isGrouping_or_faults suite file (above ++ [taken]) with ⟨tests, htests⟩ | ⟨e, he⟩
    · exact absurd hsame (readLines_without_body_ne hbody htests)
    · have hread := readLines_of_faults he
      have herror := readLines_error_append hread below
      rw [← List.append_cons, ← hsame] at herror
      refine ⟨e, hread, ?_⟩
      cases below with
      | nil => exact herror
      | cons next rest =>
        -- the fault is no further down than the body line, so the line in its place is at fault
        obtain ⟨number, hnumber, hle⟩ := he.line_le
        rw [List.append_cons] at herror
        exact readLines_error_of_le herror (by simp) hnumber (by simpa using hle)
  · rintro ⟨e, htaken, hnext⟩
    have hwithout : above ++ below = above ++ below.take 1 ++ below.drop 1 := by
      rw [List.append_assoc, List.take_append_drop]
    rw [List.append_cons, hwithout, readLines_error_append htaken, readLines_error_append hnext]

end Reading

/-- A note put between the lines of a file takes at most the first logical line below it. The outcome stays what it was
exactly if none is taken, or if the file is at fault down to that line and, with the same error, down to the line that
comes into its place. -/
theorem parse_note_iff (suite : Text) (file : Option Text) {above note below : Text}
    (habove : above.getLast? ≠ some '\r') (hbackslash : above.getLast? ≠ some '\\')
    (hreturn : note.getLast? ≠ some '\r') (hline : '\n' ∉ note) (hnote : IsNote note) :
    (TakesLine note below →
        logicalLines (above ++ '\n' :: (note ++ '\n' :: below)) = logicalLines above ++ (logicalLines below).tail) ∧
      (parse suite file (above ++ '\n' :: (note ++ '\n' :: below)) = parse suite file (above ++ '\n' :: below) ↔
        ¬ TakesLine note below ∨
          ∃ e, readLines suite file (logicalLines above ++ (logicalLines below).take 1) = .error e ∧
            readLines suite file (logicalLines above ++ (logicalLines below).tail.take 1) = .error e) := by
  have hseam (t : Text) : logicalLines (above ++ '\n' :: t) = logicalLines above ++ logicalLines t :=
    logicalLines_append_newline habove fun h => hbackslash h.1
  rw [parse, parse, hseam, hseam]
  by_cases htakes : TakesLine note below
  · obtain ⟨taken, rest, hbody, hbelow, hjoined⟩ := exists_logicalLines_of_takesLine hline hnote htakes
    rw [hjoined, hbelow]
    refine ⟨fun _ => rfl, ?_⟩
    rw [readLines_without_body_iff hbody]
    simp [htakes]
  · rw [logicalLines_note hreturn hline hnote htakes]
    simp [htakes]

/-- A backslash at the end of a comment does no harm above the name of a test. -/
theorem parse_note_above_name :
    let above : Text := "Sums\n  1 + 1 => 2".toList
    let note : Text := "\t# in C:\\".toList
    let below : Text := "Turtles\n  O> crt 1".toList
    above.getLast? ≠ some '\r' ∧ above.getLast? ≠ some '\\' ∧ note.getLast? ≠ some '\r' ∧ '\n' ∉ note ∧ IsNote note ∧
      parse "s".toList none (above ++ '\n' :: (note ++ '\n' :: below)) =
        parse "s".toList none (above ++ '\n' :: below) := by
  have habove : "Sums\n  1 + 1 => 2".toList.getLast? ≠ some '\r' := by decide
  have hbackslash : "Sums\n  1 + 1 => 2".toList.getLast? ≠ some '\\' := by decide
  have hreturn : "\t# in C:\\".toList.getLast? ≠ some '\r' := by decide
  have hline : '\n' ∉ "\t# in C:\\".toList := by decide
  have hnote : IsNote "\t# in C:\\".toList := hasContent_eq_false_iff.mp rfl
  have hstays : ¬ TakesLine "\t# in C:\\".toList "Turtles\n  O> crt 1".toList :=
    fun h => absurd h.indented (by decide)
  exact ⟨habove, hbackslash, hreturn, hline, hnote,
    (parse_note_iff _ _ habove hbackslash hreturn hline hnote).2.mpr (.inl hstays)⟩

/-- A comment that ends with a backslash hides the statement below it. -/
theorem parse_note_loses_statement :
    let above : Text := "Sums".toList
    let note : Text := "# note\\".toList
    let below : Text := "  1 => 1".toList
    '\r' ∉ above ++ note ++ below ∧ '\n' ∉ note ∧ IsNote note ∧ above.getLast? ≠ some '\\' ∧
      parse "s".toList none (above ++ '\n' :: below) =
        .ok [TestCase.ofStatements "s".toList above [.expression "1".toList (.result "1".toList)]] ∧
      parse "s".toList none (above ++ '\n' :: (note ++ '\n' :: below)) =
        .ok [TestCase.ofStatements "s".toList above []] ∧
      parse "s".toList none (above ++ '\n' :: (note ++ '\n' :: below)) ≠
        parse "s".toList none (above ++ '\n' :: below) := by
  have hnote : IsNote "# note\\".toList := hasContent_eq_false_iff.mp rfl
  have hwithout : parse "s".toList none "Sums\n  1 => 1".toList =
      .ok [TestCase.ofStatements "s".toList "Sums".toList [.expression "1".toList (.result "1".toList)]] := rfl
  have hwith : parse "s".toList none "Sums\n# note\\\n  1 => 1".toList =
      .ok [TestCase.ofStatements "s".toList "Sums".toList []] := rfl
  refine ⟨by decide, by decide, hnote, by decide, hwithout, hwith, ?_⟩
  change parse "s".toList none "Sums\n# note\\\n  1 => 1".toList ≠ parse "s".toList none "Sums\n  1 => 1".toList
  rw [hwith, hwithout]
  decide

end SuiteRunner.Proofs
