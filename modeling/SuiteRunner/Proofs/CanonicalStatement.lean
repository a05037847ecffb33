import SuiteRunner.Proofs.ExpectedOutcome
import SuiteRunner.Proofs.LineGrammar

/-!
# Canonical statements

The line in which a statement is written need not hold that statement: it is trimmed, cut at its last arrow, and
tried as a definition and as a command first. `IsCanonical` says field by field which statements survive this, and
the main statement is that these are exactly the ones that are read back from their line.
-/

namespace SuiteRunner.Proofs

/-- A text in front of an arrow that comes back: one line, flush on the left. -/
structure IsLead (t : Text) : Prop where
  newline_notMem : '\n' ∉ t
  flushLeft : IsFlushLeft t

/-- A capital letter, the mark `>` and a blank stand at the start. -/
def IsMarked (t : Text) : Prop :=
  ∃ (code c : Char) (rest : Text), t = code :: '>' :: c :: rest ∧ isCapital code = true ∧ isBlank c = true

/-- What the fields of a statement must be like for its line to hold it. Only an expression has to care for the
rules that are tried before its own. -/
def IsCanonical : Statement → Prop
  | .definition source => StartsDefinition source
  | .openModel path => IsPhrase path
  | .command _ text .success => IsPhrase text
  | .command _ text (.error message) => IsLead text ∧ IsPayload message
  | .command _ text (.compileError message) => IsLead text ∧ IsPayload message
  | .command _ text (.stackTrace trace) => IsLead text ∧ IsCanonicalTrace trace
  | .expression text expected =>
    IsLead text ∧ text ≠ [] ∧ ¬ IsMarked text ∧ ¬ StartsDefinition (Statement.expression text expected).source ∧
      match expected with
      | .result value => IsPhrase value ∧ ¬ Keyword.error.text <+: value ∧ ¬ Keyword.stackTrace.text <+: value
      | .error message => IsPayload message
      | .stackTrace trace => IsCanonicalTrace trace

section Plain

lemma not_startsDefinition_cons {c : Char} {line : Text} (ht : c ≠ 't') (he : c ≠ 'e') :
    ¬ StartsDefinition (c :: line) := by
  rintro ⟨start, hmem, hstart⟩
  have hcases : start = "to ".toList ∨ start = "to-report ".toList ∨ start = "extensions".toList := by
    simpa [definitionStarts] using hmem
  rcases hcases with rfl | rfl | rfl
  · exact ht (List.cons_prefix_cons.mp hstart).1.symm
  · exact ht (List.cons_prefix_cons.mp hstart).1.symm
  · exact he (List.cons_prefix_cons.mp hstart).1.symm

lemma code_facts (agent : Agent) :
    agent.code ≠ 't' ∧ agent.code ≠ 'e' ∧ isCapital agent.code = true ∧ isBlank agent.code = false ∧
      agent.code ≠ '\n' := by
  cases agent <;> decide

lemma part?_dropBlankEnd_iff {p : Text} :
    (∃ (c : Char) (r : Text), Text.dropBlankEnd (' ' :: p) = c :: r ∧ part? r = some p) ↔
      p ≠ [] ∧ '\n' ∉ p ∧ IsFlushLeft p ∧ IsFlushRight p := by
  constructor
  · rintro ⟨c, r, hcut, hpart⟩
    obtain ⟨hnew, hp⟩ := part?_eq_some_iff.mp hpart
    have hne : p.dropBlankEnd ≠ [] := by
      intro hnil
      rw [dropBlankEnd_space_eq_nil hnil] at hcut
      cases hcut
    rw [dropBlankEnd_cons hne] at hcut
    obtain ⟨rfl, rfl⟩ := List.cons_eq_cons.mp hcut
    have hpne : p ≠ [] := by
      rintro rfl
      exact hne rfl
    obtain ⟨a, -, hsplit⟩ := exists_blanks_dropBlank p.dropBlankEnd
    rw [← hp] at hsplit
    have hflush : IsFlushRight (a ++ p) := hsplit ▸ isFlushRight_dropBlankEnd p
    refine ⟨hpne, hp ▸ hnew, ?_, (isFlushRight_append hpne).mp hflush⟩
    rw [hp]
    exact isFlushLeft_dropBlank _
  · rintro ⟨hne, hnew, hleft, hright⟩
    have hend := dropBlankEnd_eq_self hright
    refine ⟨' ', p, ?_, ?_⟩
    · rw [dropBlankEnd_cons (by rwa [hend]), hend]
    · rw [part?_of_newline_notMem hnew, dropBlank_eq_self hleft]

lemma part?_cons {c : Char} (hc : isBlank c = true) (r : Text) : part? (c :: r) = part? r := by
  rw [part?, part?, dropBlank_cons hc]

lemma isBlank_of_dropBlankEnd_space {p r : Text} {c : Char} (h : Text.dropBlankEnd (' ' :: p) = c :: r) :
    isBlank c = true := by
  obtain ⟨b, -, hsplit⟩ := exists_blanks_dropBlankEnd (' ' :: p)
  rw [h] at hsplit
  have hc : ' ' = c := (List.cons_eq_cons.mp hsplit).1
  rw [← hc]
  decide

lemma trim_openModel (path : Text) :
    (Statement.openModel path).source.trim = "OPEN>".toList ++ Text.dropBlankEnd (' ' :: path) := by
  have hflush : IsFlushLeft (Statement.openModel path).source := isFlushLeft_cons.mpr (by decide)
  rw [trim_eq_dropBlankEnd hflush]
  exact dropBlankEnd_append_cons (c := '>') (by decide) "OPEN".toList (' ' :: path)

theorem reads_openModel_iff {path : Text} :
    Reads (Statement.openModel path).source (.openModel path) ↔ IsPhrase path := by
  have htrim := trim_openModel path
  have hmark : agentMark? (Statement.openModel path).source.trim = none := by
    rw [htrim]
    rfl
  have hjudged : judgedCommand? (Statement.openModel path).source.trim = none := by
    rw [judgedCommand?, hmark]
    rfl
  have hplain : plainCommand? (Statement.openModel path).source.trim = none := by
    rw [plainCommand?, hmark]
    rfl
  have hmodel : modelPath? (Statement.openModel path).source.trim = some path ↔
      path ≠ [] ∧ '\n' ∉ path ∧ IsFlushLeft path ∧ IsFlushRight path := by
    rw [modelPath?_eq_some_iff, htrim, ← part?_dropBlankEnd_iff]
    constructor
    · rintro ⟨c, r, hcut, -, hpart⟩
      exact ⟨c, r, List.append_cancel_left hcut, hpart⟩
    · rintro ⟨c, r, hcut, hpart⟩
      exact ⟨c, r, by rw [hcut], isBlank_of_dropBlankEnd_space hcut, hpart⟩
  have harrow (hnew : '\n' ∉ path) (hne : path ≠ []) (hright : IsFlushRight path) :
      splitAtArrow? (Statement.openModel path).source.trim = none ↔ IsArrowFree path := by
    have hend := dropBlankEnd_eq_self hright
    rw [htrim, dropBlankEnd_cons (by rwa [hend]), hend, splitAtArrow?_eq_none_iff (by simpa using hnew)]
    exact not_congr (hasArrow_append_space (by decide) path)
  constructor
  · intro h
    cases h with
    | openModel hd hc hs hp hm =>
      obtain ⟨hne, hnew, hleft, hright⟩ := hmodel.mp hm
      exact ⟨⟨hnew, hright, (harrow hnew hne hright).mp hs⟩, hne, hleft⟩
  · intro h
    exact .openModel (not_startsDefinition_cons (by decide) (by decide)) hjudged
      ((harrow h.newline_notMem h.ne_nil h.flushRight).mpr h.arrowFree) hplain
      (hmodel.mpr ⟨h.ne_nil, h.newline_notMem, h.flushLeft, h.flushRight⟩)

lemma not_startsDefinition_command (agent : Agent) (text : Text) (expected : CommandOutcome) :
    ¬ StartsDefinition (Statement.command agent text expected).source :=
  not_startsDefinition_cons (code_facts agent).1 (code_facts agent).2.1

lemma source_command (agent : Agent) (text : Text) (expected : CommandOutcome) :
    (Statement.command agent text expected).source = agent.code :: '>' :: ' ' :: (text ++ expected.source) :=
  rfl

lemma trim_command (agent : Agent) (text : Text) (expected : CommandOutcome) :
    (Statement.command agent text expected).source.trim =
      agent.code :: '>' :: Text.dropBlankEnd (' ' :: (text ++ expected.source)) := by
  have hflush : IsFlushLeft (Statement.command agent text expected).source :=
    isFlushLeft_cons.mpr (code_facts agent).2.2.2.1
  rw [trim_eq_dropBlankEnd hflush]
  exact dropBlankEnd_append_cons (c := '>') (by decide) [agent.code] (' ' :: (text ++ expected.source))

lemma agentMark?_command {code : Char} (hcode : isCapital code = true) (r rest : Text) :
    agentMark? (code :: '>' :: r) = some (code, rest) ↔
      ∃ (c : Char) (s : Text), r = c :: s ∧ isBlank c = true ∧ rest = r := by
  rw [agentMark?_eq_some_iff]
  constructor
  · rintro ⟨c, s, hr, -, hc, rfl⟩
    obtain rfl : r = c :: s := by simpa using hr
    exact ⟨c, s, rfl, hc, rfl⟩
  · rintro ⟨c, s, rfl, hc, rfl⟩
    exact ⟨c, s, rfl, hcode, hc, rfl⟩

theorem reads_plainCommand_iff {agent : Agent} {text : Text} :
    Reads (Statement.command agent text .success).source (.command agent text .success) ↔ IsPhrase text := by
  obtain ⟨-, -, hcapital, hcode, hcodeLine⟩ := code_facts agent
  have htrim := trim_command agent text .success
  rw [CommandOutcome.source, List.append_nil] at htrim
  have hplain : plainCommand? (Statement.command agent text .success).source.trim = some (agent.code, text) ↔
      text ≠ [] ∧ '\n' ∉ text ∧ IsFlushLeft text ∧ IsFlushRight text := by
    rw [plainCommand?_eq_some_iff, htrim, ← part?_dropBlankEnd_iff]
    constructor
    · rintro ⟨rest, hmark, hpart⟩
      obtain ⟨c, r, hcut, hc, rfl⟩ := (agentMark?_command hcapital _ _).mp hmark
      rw [hcut, part?_cons hc] at hpart
      exact ⟨c, r, hcut, hpart⟩
    · rintro ⟨c, r, hcut, hpart⟩
      have hc := isBlank_of_dropBlankEnd_space hcut
      exact ⟨c :: r, (agentMark?_command hcapital _ _).mpr ⟨c, r, hcut, hc, hcut.symm⟩, by rwa [part?_cons hc]⟩
  have hwritten (hne : text ≠ []) (hright : IsFlushRight text) :
      (Statement.command agent text .success).source.trim = agent.code :: '>' :: ' ' :: text := by
    have hend := dropBlankEnd_eq_self hright
    rw [htrim, dropBlankEnd_cons (by rwa [hend]), hend]
  have harrow (hnew : '\n' ∉ text) :
      splitAtArrow? (agent.code :: '>' :: ' ' :: text) = none ↔ IsArrowFree text := by
    rw [splitAtArrow?_eq_none_iff (by simp [hnew, Ne.symm hcodeLine]), hasArrow_cons_of_not_blank hcode,
      hasArrow_cons_of_not_blank (by decide)]
    rfl
  constructor
  · intro h
    cases h with
    | judgedCommand hd hc he =>
      obtain ⟨rest, -, hcut⟩ := judgedCommand?_eq_some_iff.mp hc
      exact absurd rfl (of_commandOutcome_read he (commandAtArrow?_eq_some hcut).2).1
    | plainCommand hd hc hs hp =>
      obtain ⟨hne, hnew, hleft, hright⟩ := hplain.mp hp
      rw [hwritten hne hright] at hs
      exact ⟨⟨hnew, hright, (harrow hnew).mp hs⟩, hne, hleft⟩
  · intro h
    have hline := hwritten h.ne_nil h.flushRight
    refine .plainCommand (not_startsDefinition_command agent text .success) ?_ ?_
      (hplain.mpr ⟨h.ne_nil, h.newline_notMem, h.flushLeft, h.flushRight⟩)
    · have hno : ¬ HasArrow text := fun hm => h.arrowFree (hm.append [' '])
      have hmark : agentMark? (agent.code :: '>' :: ' ' :: text) = some (agent.code, ' ' :: text) :=
        (agentMark?_command hcapital _ _).mpr ⟨' ', text, rfl, by decide, rfl⟩
      rw [hline, judgedCommand?, hmark, Option.bind_some,
        commandAtArrow?_cons h.newline_notMem ' ' (by decide), splitAtArrow?_eq_none hno]
      rfl
    · rw [hline]
      exact (harrow h.newline_notMem).mpr h.arrowFree

end Plain

section Judged

lemma trim_judgedCommand (agent : Agent) (text : Text) {out : Text} {expected : CommandOutcome}
    (hsource : expected.source = arrow ++ out) :
    (Statement.command agent text expected).source.trim =
      agent.code :: '>' :: ' ' :: (text ++ trimmedArrow out) := by
  have hend := dropBlankEnd_append_arrow (' ' :: text) out
  rw [trim_command, hsource]
  exact congrArg (agent.code :: '>' :: ·) hend

lemma judgedCommand?_written {code : Char} (hcode : isCapital code = true) {text out o : Text}
    (hnew : '\n' ∉ text) (hout : '\n' ∉ out) :
    judgedCommand? (code :: '>' :: ' ' :: (text ++ trimmedArrow out)) = some (code, text, o) ↔
      IsFlushLeft text ∧ out.dropBlankEnd ≠ [] ∧ IsArrowFree out.dropBlankEnd ∧
        o = out.dropBlankEnd.dropBlank := by
  have hline : '\n' ∉ text ++ trimmedArrow out := by simp [hnew, newline_notMem_trimmedArrow hout]
  have hmark : agentMark? (code :: '>' :: ' ' :: (text ++ trimmedArrow out)) =
      some (code, ' ' :: (text ++ trimmedArrow out)) :=
    (agentMark?_command hcode _ _).mpr ⟨' ', text ++ trimmedArrow out, rfl, by decide, rfl⟩
  rw [judgedCommand?, hmark, Option.bind_some, commandAtArrow?_cons hline ' ' (by decide), Option.map_map,
    Option.map_eq_some_iff, ← splitAtArrow?_trimmedArrow_iff hnew hout]
  constructor
  · rintro ⟨⟨a, o'⟩, hcut, heq⟩
    simp only [Function.comp_apply, Prod.mk.injEq, true_and] at heq
    obtain ⟨ha, rfl⟩ := heq
    have hlast := (splitAtArrow?_eq_some_iff hline).mp hcut
    obtain rfl := eq_of_isLastArrow_trimmedArrow hlast ha
    exact ⟨ha ▸ isFlushLeft_dropBlank a, hcut⟩
  · rintro ⟨hflush, hcut⟩
    exact ⟨(text, o), hcut, by simp [dropBlank_eq_self hflush]⟩

theorem reads_judgedCommand_iff {agent : Agent} {text out : Text} {expected : CommandOutcome}
    (hsource : expected.source = arrow ++ out) :
    Reads (Statement.command agent text expected).source (.command agent text expected) ↔
      IsLead text ∧ StandsBehindArrow out ∧
        CommandOutcome.read out.dropBlankEnd.dropBlank = .ok expected := by
  have hcapital := (code_facts agent).2.2.1
  have htrim := trim_judgedCommand agent text hsource
  constructor
  · intro h
    cases h with
    | judgedCommand hd hc he =>
      obtain ⟨rest, -, hcut⟩ := judgedCommand?_eq_some_iff.mp hc
      obtain ⟨hnew, houtcome⟩ := commandAtArrow?_eq_some hcut
      have hwritten := (of_commandOutcome_read he houtcome).2
      have hout : '\n' ∉ out := by
        rw [hsource] at hwritten
        exact fun hm => hwritten (List.mem_append_right _ hm)
      rw [htrim, judgedCommand?_written hcapital hnew hout] at hc
      obtain ⟨hflush, hne, hfree, rfl⟩ := hc
      exact ⟨⟨hnew, hflush⟩, ⟨hout, hne, hfree⟩, he⟩
    | plainCommand hd hc hs hp => exact absurd hsource (by simp [CommandOutcome.source, arrow])
  · rintro ⟨hlead, hstands, hread⟩
    refine .judgedCommand (not_startsDefinition_command agent text expected) ?_ hread
    rw [htrim, judgedCommand?_written hcapital hlead.newline_notMem hstands.newline_notMem]
    exact ⟨hlead.flushLeft, hstands.ne_nil, hstands.arrowFree, rfl⟩

lemma read_write_trimmed (keyword : Keyword) (payload : Text) :
    (keyword.write payload).dropBlankEnd.dropBlank = (keyword.write payload).dropBlankEnd :=
  dropBlank_eq_self (isFlushLeft_dropBlankEnd (isFlushLeft_write keyword payload))

theorem reads_command_iff (agent : Agent) (text : Text) (expected : CommandOutcome) :
    Reads (Statement.command agent text expected).source (.command agent text expected) ↔
      IsCanonical (.command agent text expected) := by
  cases expected with
  | success => exact reads_plainCommand_iff
  | error message =>
    rw [reads_judgedCommand_iff rfl, read_write_trimmed, commandOutcome_read_error, Except.ok.injEq,
      CommandOutcome.error.injEq, standsBehindArrow_write_iff]
    rfl
  | compileError message =>
    rw [reads_judgedCommand_iff rfl, read_write_trimmed, commandOutcome_read_compileError, Except.ok.injEq,
      CommandOutcome.compileError.injEq, standsBehindArrow_write_iff]
    rfl
  | stackTrace trace =>
    rw [reads_judgedCommand_iff rfl, read_write_trimmed, commandOutcome_read_stackTrace, Except.ok.injEq,
      CommandOutcome.stackTrace.injEq, standsBehindArrow_encode_iff]
    rfl

end Judged

section Expression

lemma source_expression (text : Text) (expected : ExpressionOutcome) :
    (Statement.expression text expected).source = text ++ expected.source :=
  rfl

lemma trim_expression {text out : Text} {expected : ExpressionOutcome} (hsource : expected.source = arrow ++ out)
    (hne : text ≠ []) (hflush : IsFlushLeft text) :
    (Statement.expression text expected).source.trim = text ++ trimmedArrow out := by
  have hline : IsFlushLeft (text ++ expected.source) := (isFlushLeft_append hne).mpr hflush
  rw [source_expression, trim_eq_dropBlankEnd hline, hsource, dropBlankEnd_append_arrow]

/-- Two characters in front of the arrow are no command: there is no blank left for the mark. -/
lemma judgedCommand?_expression_iff {text out : Text} (hnew : '\n' ∉ text) (hne : text ≠ [])
    (hstands : StandsBehindArrow out) :
    judgedCommand? (text ++ trimmedArrow out) = none ↔ ¬ IsMarked text := by
  have hout := hstands.newline_notMem
  constructor
  · rintro hnone ⟨code, c, rest, rfl, hcode, hc⟩
    have hrest : '\n' ∉ rest := fun hm => hnew (by simp [hm])
    have hcut := (splitAtArrow?_trimmedArrow_iff hrest hout).mpr ⟨hstands.ne_nil, hstands.arrowFree, rfl⟩
    have hmark : agentMark? (code :: '>' :: c :: (rest ++ trimmedArrow out)) =
        some (code, c :: (rest ++ trimmedArrow out)) :=
      (agentMark?_command hcode _ _).mpr ⟨c, rest ++ trimmedArrow out, rfl, hc, rfl⟩
    have hline : '\n' ∉ rest ++ trimmedArrow out := by simp [hrest, newline_notMem_trimmedArrow hout]
    rw [judgedCommand?, List.cons_append, List.cons_append, List.cons_append, hmark, Option.bind_some,
      commandAtArrow?_cons hline c hc, hcut] at hnone
    cases hnone
  · intro hmarked
    rw [judgedCommand?, Option.bind_eq_none_iff]
    rintro ⟨code, r⟩ hmark
    obtain ⟨c, rest, ht, hcode, hc, rfl⟩ := agentMark?_eq_some_iff.mp hmark
    rcases text with _ | ⟨d, _ | ⟨e, _ | ⟨f, text⟩⟩⟩
    · exact absurd rfl hne
    · have hsign : ' ' = '>' := (List.cons_eq_cons.mp (List.cons_eq_cons.mp ht).2).1
      exact absurd hsign (by decide)
    · have htail : trimmedArrow out = c :: rest := (List.cons_eq_cons.mp (List.cons_eq_cons.mp ht).2).2
      have hrest : '=' :: '>' :: ' ' :: out.dropBlankEnd = rest := by
        rw [trimmedArrow, dropBlankEnd_cons hstands.ne_nil] at htail
        exact (List.cons_eq_cons.mp htail).2
      have hfree : ¬ HasArrow rest := hrest ▸ mt hasArrow_head.mp hstands.arrowFree
      have hline : '\n' ∉ rest := by
        have htrimmed := newline_notMem_trimmedArrow hout
        rw [htail] at htrimmed
        exact fun hm => htrimmed (List.mem_cons_of_mem c hm)
      rw [commandAtArrow?_cons hline c hc, splitAtArrow?_eq_none hfree]
      rfl
    · obtain ⟨hd, ht⟩ := List.cons_eq_cons.mp ht
      obtain ⟨he, ht⟩ := List.cons_eq_cons.mp ht
      obtain ⟨hf, -⟩ := List.cons_eq_cons.mp ht
      exact absurd ⟨code, c, text, by rw [hd, he, hf], hcode, hc⟩ hmarked

theorem reads_expression_iff {text out : Text} {expected : ExpressionOutcome}
    (hsource : expected.source = arrow ++ out) :
    Reads (Statement.expression text expected).source (.expression text expected) ↔
      IsLead text ∧ text ≠ [] ∧ ¬ IsMarked text ∧
        ¬ StartsDefinition (Statement.expression text expected).source ∧ StandsBehindArrow out ∧
          ExpressionOutcome.read out.dropBlankEnd.dropBlank = expected := by
  constructor
  · intro h
    obtain ⟨hd, hc, outcome, hcut, hread⟩ := h.of_expression
    obtain ⟨-, hnew, houtcome⟩ := splitAtArrow?_eq_some hcut
    have hout : '\n' ∉ out := by
      have hwritten := newline_notMem_expressionOutcome_read houtcome
      rw [hread, hsource] at hwritten
      exact fun hm => hwritten (List.mem_append_right _ hm)
    have hsourceLine : '\n' ∉ (Statement.expression text expected).source := by
      have harrow : '\n' ∉ arrow := by decide
      simp [source_expression, hsource, harrow, hnew, hout]
    have hlast := (splitAtArrow?_eq_some_iff (mt mem_of_mem_trim hsourceLine)).mp hcut
    obtain ⟨hne, hflush⟩ := hlast.flushLeft (isFlushLeft_trim _)
    have htrim := trim_expression hsource hne hflush
    rw [htrim, splitAtArrow?_trimmedArrow_iff hnew hout] at hcut
    obtain ⟨hend, hfree, rfl⟩ := hcut
    have hstands : StandsBehindArrow out := ⟨hout, hend, hfree⟩
    rw [htrim, judgedCommand?_expression_iff hnew hne hstands] at hc
    exact ⟨⟨hnew, hflush⟩, hne, hc, hd, hstands, hread⟩
  · rintro ⟨hlead, hne, hmarked, hd, hstands, hread⟩
    have htrim := trim_expression hsource hne hlead.flushLeft
    have hcut : splitAtArrow? (Statement.expression text expected).source.trim =
        some (text, out.dropBlankEnd.dropBlank) := by
      rw [htrim, splitAtArrow?_trimmedArrow_iff hlead.newline_notMem hstands.newline_notMem]
      exact ⟨hstands.ne_nil, hstands.arrowFree, rfl⟩
    have hc : judgedCommand? (Statement.expression text expected).source.trim = none := by
      rw [htrim]
      exact (judgedCommand?_expression_iff hlead.newline_notMem hne hstands).mpr hmarked
    have hreads := Reads.expression hd hc hcut
    rwa [hread] at hreads

lemma standsBehindArrow_value_iff {value : Text} :
    StandsBehindArrow value ∧ ExpressionOutcome.read value.dropBlankEnd.dropBlank = .result value ↔
      IsPhrase value ∧ ¬ Keyword.error.text <+: value ∧ ¬ Keyword.stackTrace.text <+: value := by
  rw [expressionOutcome_read_eq_result_iff]
  constructor
  · rintro ⟨hstands, hvalue, hkeywords⟩
    have hleft : IsFlushLeft value := hvalue ▸ isFlushLeft_dropBlank _
    have hend : value.dropBlankEnd = value := by
      rw [← dropBlank_eq_self (isFlushLeft_dropBlankEnd hleft)]
      exact hvalue
    have hne := hstands.ne_nil
    have hfree := hstands.arrowFree
    rw [hend] at hne hfree
    exact ⟨⟨⟨hstands.newline_notMem, hend ▸ isFlushRight_dropBlankEnd value, hfree⟩, hne, hleft⟩, hkeywords⟩
  · rintro ⟨hphrase, hkeywords⟩
    refine ⟨hphrase.standsBehindArrow, ?_, hkeywords⟩
    rw [dropBlankEnd_eq_self hphrase.flushRight, dropBlank_eq_self hphrase.flushLeft]

theorem reads_expression_iff_isCanonical (text : Text) (expected : ExpressionOutcome) :
    Reads (Statement.expression text expected).source (.expression text expected) ↔
      IsCanonical (.expression text expected) := by
  cases expected with
  | result value =>
    rw [reads_expression_iff rfl, standsBehindArrow_value_iff]
    rfl
  | error message =>
    rw [reads_expression_iff rfl, read_write_trimmed, expressionOutcome_read_error,
      ExpressionOutcome.error.injEq, standsBehindArrow_write_iff]
    rfl
  | stackTrace trace =>
    rw [reads_expression_iff rfl, read_write_trimmed, expressionOutcome_read_stackTrace,
      ExpressionOutcome.stackTrace.injEq, standsBehindArrow_encode_iff]
    rfl

end Expression

/-- A line holds the statement that is written in it exactly if the statement is canonical. -/
theorem reads_source_iff (statement : Statement) : Reads statement.source statement ↔ IsCanonical statement := by
  cases statement with
  | openModel path => exact reads_openModel_iff
  | definition source =>
    constructor
    · intro h
      cases h with
      | definition hd => exact hd
    · exact .definition
  | command agent text expected => exact reads_command_iff agent text expected
  | expression text expected => exact reads_expression_iff_isCanonical text expected

/-- The statements that come back from their line are the canonical ones. -/
theorem read_source_eq_ok_iff (statement : Statement) :
    Statement.read statement.source = .ok statement ↔ IsCanonical statement :=
  read_eq_ok_iff.trans (reads_source_iff statement)

end SuiteRunner.Proofs
