import SuiteRunner.Proofs.CanonicalStatement

/-!
# Lines that are written again

A line is read, and the statement that it holds is written in a line of its own. The blanks around the arrow and
behind the mark become one space each, and so does the character behind a keyword, whatever it was. The statement is
found again in the new line unless one of these spaces completes what was not there before: an arrow in front of the
payload, or the first word of a definition.
-/

namespace SuiteRunner.Proofs

/-- What is written behind the keyword of an expected failure. -/
def writtenPayload? : Statement → Option Text
  | .command _ _ (.error message) => some message
  | .command _ _ (.compileError message) => some message
  | .command _ _ (.stackTrace trace) => some (Trace.encode trace)
  | .expression _ (.error message) => some message
  | .expression _ (.stackTrace trace) => some (Trace.encode trace)
  | _ => none

/-- The space behind the keyword and the start of the payload make an arrow. -/
def OpensArrow (s : Statement) : Prop :=
  ∃ payload, writtenPayload? s = some payload ∧ StartsAtHead payload

/-- The expression and the space behind it make the start of a definition. -/
def OpensDefinition : Statement → Prop
  | .expression text _ => text = "to".toList ∨ text = "to-report".toList
  | _ => False

lemma opensArrow_iff {s : Statement} {payload : Text} (h : writtenPayload? s = some payload) :
    OpensArrow s ↔ StartsAtHead payload := by
  simp [OpensArrow, h]

lemma not_opensArrow {s : Statement} (h : writtenPayload? s = none) : ¬ OpensArrow s := by
  simp [OpensArrow, h]

section Parts

lemma IsFlushRight.of_append {a b : Text} (h : IsFlushRight (a ++ b)) : IsFlushRight b := by
  by_cases hb : b = []
  · subst hb
    intro c hc
    cases hc
  · exact (isFlushRight_append hb).mp h

lemma isPhrase_dropBlank {c : Char} {r : Text} (hc : isBlank c = true) (hnew : '\n' ∉ r)
    (hright : IsFlushRight (c :: r)) (harrow : ¬ HasArrow (c :: r)) : IsPhrase r.dropBlank := by
  obtain ⟨a, ha, hsplit⟩ := exists_blanks_dropBlank r
  have hblanks : ∀ d ∈ c :: a, isBlank d = true := by simpa using ⟨hc, ha⟩
  have hline : c :: r = (c :: a) ++ r.dropBlank := by rw [List.cons_append, ← hsplit]
  rw [hline] at hright harrow
  have hne : r.dropBlank ≠ [] := by
    intro hnil
    rw [hnil, List.append_nil] at hright
    have hflush := hright _ (List.getLast?_eq_some_getLast (List.cons_ne_nil c a))
    have hblank := hblanks _ (List.getLast_mem (List.cons_ne_nil c a))
    rw [hflush] at hblank
    cases hblank
  refine ⟨⟨fun hm => hnew (mem_of_mem_dropBlank hm), hright.of_append, ?_⟩, hne, isFlushLeft_dropBlank r⟩
  intro hspace
  rcases hasArrow_cons.mp hspace with ⟨-, hhead⟩ | hlater
  · exact harrow (hasArrow_blanks_append (List.cons_ne_nil c a) hblanks hhead)
  · exact harrow (hlater.append _)

lemma IsLastArrow.isPhrase {t a o : Text} (h : IsLastArrow t a o) (hnew : '\n' ∉ t) (hright : IsFlushRight t) :
    IsPhrase o := by
  obtain ⟨v, w, rest, rfl, -, hw, hlast, rfl⟩ := h
  have hrest : '\n' ∉ rest := fun hm => hnew (by simp [hm])
  have hcut : a ++ v :: '=' :: '>' :: w :: rest = (a ++ [v, '=', '>']) ++ w :: rest := by simp
  rw [hcut] at hright
  exact isPhrase_dropBlank hw hrest hright.of_append hlast

lemma IsLastArrow.newline_notMem {t a o : Text} (h : IsLastArrow t a o) (hnew : '\n' ∉ t) : '\n' ∉ a := by
  obtain ⟨v, w, rest, rfl, -⟩ := h
  exact fun hm => hnew (List.mem_append_left _ hm)

lemma isPayload_iff_of_payload? {keyword : Keyword} {outcome payload : Text} (ho : IsPhrase outcome)
    (h : keyword.payload? outcome = some payload) : IsPayload payload ↔ ¬ StartsAtHead payload := by
  have hsuffix : payload <:+ outcome := by
    rw [Keyword.payload?] at h
    split at h
    · injection h with h
      rw [← h]
      exact List.drop_suffix _ _
    · cases h
  obtain ⟨a, rfl⟩ := hsuffix
  constructor
  · intro hpayload hhead
    exact hpayload.arrowFree (hasArrow_cons.mpr (.inl ⟨by decide, hhead⟩))
  · intro hhead
    refine ⟨fun hm => ho.newline_notMem (List.mem_append_right a hm), ho.flushRight.of_append, ?_⟩
    intro hspace
    have hlater := (hasArrow_cons.mp hspace).resolve_left fun hstart => hhead hstart.2
    exact ho.arrowFree ((hlater.append a).append [' '])

lemma isCanonicalTrace_iff_of_payload? {keyword : Keyword} {outcome payload : Text} (ho : IsPhrase outcome)
    (h : keyword.payload? outcome = some payload) :
    IsCanonicalTrace (Trace.decode payload) ↔ ¬ StartsAtHead (Trace.encode (Trace.decode payload)) := by
  have hnew := newline_notMem_of_payload? h ho.newline_notMem
  rw [IsCanonicalTrace, and_iff_right (not_holdsEscape_decode payload), encode_decode hnew]
  exact isPayload_iff_of_payload? ho h

end Parts

section Command

lemma isLead_isPhrase_of_judgedCommand? {line text outcome : Text} {code : Char} (hnew : '\n' ∉ line)
    (hright : IsFlushRight line) (h : judgedCommand? line = some (code, text, outcome)) :
    IsLead text ∧ IsPhrase outcome := by
  obtain ⟨rest, hmark, hcut⟩ := judgedCommand?_eq_some_iff.mp h
  obtain ⟨c, r, rfl, -, hblank, rfl⟩ := agentMark?_eq_some_iff.mp hmark
  have hr : '\n' ∉ r := fun hm => hnew (by simp [hm])
  rw [commandAtArrow?_cons hr c hblank, Option.map_eq_some_iff] at hcut
  obtain ⟨⟨before, _⟩, hsplit, heq⟩ := hcut
  obtain ⟨rfl, rfl⟩ := Prod.ext_iff.mp heq
  have hlast := (splitAtArrow?_eq_some_iff hr).mp hsplit
  have hbefore := hlast.newline_notMem hr
  have hlead : IsLead before.dropBlank :=
    ⟨fun hm => hbefore (mem_of_mem_dropBlank hm), isFlushLeft_dropBlank before⟩
  have hend : IsFlushRight r := IsFlushRight.of_append (a := [code, '>', c]) hright
  exact ⟨hlead, hlast.isPhrase hr hend⟩

lemma isCanonical_command_iff {agent : Agent} {text outcome : Text} {expected : CommandOutcome}
    (hlead : IsLead text) (ho : IsPhrase outcome) (h : CommandOutcome.read outcome = .ok expected) :
    IsCanonical (.command agent text expected) ↔ ¬ OpensArrow (.command agent text expected) := by
  unfold CommandOutcome.read at h
  split at h
  next message hm =>
    cases h
    rw [opensArrow_iff rfl, ← isPayload_iff_of_payload? ho hm]
    exact and_iff_right hlead
  next =>
    split at h
    next message hm =>
      cases h
      rw [opensArrow_iff rfl, ← isPayload_iff_of_payload? ho hm]
      exact and_iff_right hlead
    next =>
      split at h
      next payload hp =>
        cases h
        rw [opensArrow_iff rfl, ← isCanonicalTrace_iff_of_payload? ho hp]
        exact and_iff_right hlead
      next => cases h

end Command

section Expression

/-- A definition starts with a word and a space, so that the space behind an expression can only complete the word. -/
lemma startsDefinition_append_space_iff {text : Text} (h : ¬ StartsDefinition text) (rest : Text) :
    StartsDefinition (text ++ ' ' :: rest) ↔ text = "to".toList ∨ text = "to-report".toList := by
  constructor
  · rintro ⟨start, hmem, hstart⟩
    have hshort : ¬ start <+: text := fun hp => h ⟨start, hmem, hp⟩
    obtain ⟨u, rfl⟩ := (List.prefix_or_prefix_of_prefix hstart (List.prefix_append text _)).resolve_left hshort
    cases u with
    | nil =>
      rw [List.append_nil] at hshort
      exact absurd List.prefix_rfl hshort
    | cons c u =>
      have hc : c = ' ' := by
        rw [List.prefix_append_right_inj, List.cons_prefix_cons] at hstart
        exact hstart.1
      subst hc
      have hword {word : Text} (hword : ' ' ∉ word) (heq : text ++ ' ' :: u = word ++ [' ']) : text = word :=
        ((List.append_cons_inj_of_notMem hword List.not_mem_nil).mp heq.symm).1.symm
      simp only [definitionStarts, List.mem_cons, List.not_mem_nil, or_false] at hmem
      rcases hmem with heq | heq | heq
      · exact .inl (hword (by decide) heq)
      · exact .inr (hword (by decide) heq)
      · have hspace : ' ' ∈ "extensions".toList := heq ▸ by simp
        exact absurd hspace (by decide)
  · rintro (rfl | rfl)
    · exact ⟨"to ".toList, by simp [definitionStarts], rest, rfl⟩
    · exact ⟨"to-report ".toList, by simp [definitionStarts], rest, rfl⟩

lemma startsDefinition_source_iff {text : Text} (h : ¬ StartsDefinition text) (expected : ExpressionOutcome) :
    StartsDefinition (Statement.expression text expected).source ↔
      OpensDefinition (.expression text expected) := by
  have hspace : ∃ rest, expected.source = ' ' :: rest := by
    cases expected <;> exact ⟨_, rfl⟩
  obtain ⟨rest, hrest⟩ := hspace
  rw [source_expression, hrest]
  exact startsDefinition_append_space_iff h rest

lemma not_isMarked_of_not_judgedCommand {line text outcome : Text} (hnew : '\n' ∉ line)
    (hc : judgedCommand? line = none) (hlast : IsLastArrow line text outcome) : ¬ IsMarked text := by
  rintro ⟨code, c, rest, rfl, hcode, hblank⟩
  obtain ⟨v, w, after, rfl, hv, hw, hno, rfl⟩ := hlast
  have hline : '\n' ∉ rest ++ v :: '=' :: '>' :: w :: after := by
    intro hm
    simp only [List.cons_append, List.mem_cons, not_or] at hnew
    exact hnew.2.2.2 hm
  have hcut : splitAtArrow? (rest ++ v :: '=' :: '>' :: w :: after) = some (rest, after.dropBlank) :=
    splitAtArrow?_of_isLastArrow hline ⟨v, w, after, rfl, hv, hw, hno, rfl⟩
  simp only [List.cons_append] at hc
  rw [judgedCommand?_marked hcode hblank hline, hcut] at hc
  cases hc

lemma isCanonical_expression_iff {line text outcome : Text} (hnew : '\n' ∉ line) (hleft : IsFlushLeft line)
    (hright : IsFlushRight line) (hd : ¬ StartsDefinition line) (hc : judgedCommand? line = none)
    (hlast : IsLastArrow line text outcome) :
    IsCanonical (.expression text (ExpressionOutcome.read outcome)) ↔
      ¬ OpensArrow (.expression text (ExpressionOutcome.read outcome)) ∧
        ¬ OpensDefinition (.expression text (ExpressionOutcome.read outcome)) := by
  obtain ⟨hne, hflush⟩ := hlast.flushLeft hleft
  have hlead : IsLead text := ⟨hlast.newline_notMem hnew, hflush⟩
  have hmarked := not_isMarked_of_not_judgedCommand hnew hc hlast
  have ho := hlast.isPhrase hnew hright
  have hdtext : ¬ StartsDefinition text := by
    rintro ⟨start, hmem, hstart⟩
    obtain ⟨v, w, rest, rfl, -⟩ := hlast
    exact hd ⟨start, hmem, hstart.trans (List.prefix_append text _)⟩
  rw [← startsDefinition_source_iff hdtext]
  unfold ExpressionOutcome.read
  split
  next message hm =>
    rw [opensArrow_iff rfl, ← isPayload_iff_of_payload? ho hm]
    exact ⟨fun ⟨_, _, _, hs, hp⟩ => ⟨hp, hs⟩, fun ⟨hp, hs⟩ => ⟨hlead, hne, hmarked, hs, hp⟩⟩
  next he =>
    split
    next payload hp =>
      rw [opensArrow_iff rfl, ← isCanonicalTrace_iff_of_payload? ho hp]
      exact ⟨fun ⟨_, _, _, hs, hp⟩ => ⟨hp, hs⟩, fun ⟨hp, hs⟩ => ⟨hlead, hne, hmarked, hs, hp⟩⟩
    next ht =>
      have hvalue : IsPhrase outcome ∧ ¬ Keyword.error.text <+: outcome ∧ ¬ Keyword.stackTrace.text <+: outcome :=
        ⟨ho, payload?_eq_none_iff.mp he, payload?_eq_none_iff.mp ht⟩
      rw [and_iff_right (not_opensArrow rfl)]
      exact ⟨fun ⟨_, _, _, hs, _⟩ => hs, fun hs => ⟨hlead, hne, hmarked, hs, hvalue⟩⟩

end Expression

lemma isPhrase_of_append_part? {a t p : Text} {c : Char} (hc : isBlank c = true) (hnew : '\n' ∉ a ++ c :: t)
    (hright : IsFlushRight (a ++ c :: t)) (hno : ¬ HasArrow (a ++ c :: t)) (hp : part? t = some p) : IsPhrase p := by
  obtain ⟨-, rfl⟩ := part?_eq_some_iff.mp hp
  exact isPhrase_dropBlank hc (fun hm => hnew (by simp [hm])) hright.of_append fun h => hno (h.append a)

lemma Reads.isCanonical_iff {line : Text} {s : Statement} (htrim : line.trim = line) (hnew : '\n' ∉ line)
    (h : Reads line s) : IsCanonical s ↔ ¬ OpensArrow s ∧ ¬ OpensDefinition s := by
  obtain ⟨hleft, hright⟩ := (trim_eq_self_iff line).mp htrim
  cases h with
  | definition hd => exact iff_of_true hd ⟨not_opensArrow rfl, not_false⟩
  | judgedCommand hd hc he =>
    rw [htrim] at hc
    obtain ⟨hlead, ho⟩ := isLead_isPhrase_of_judgedCommand? hnew hright hc
    rw [isCanonical_command_iff hlead ho he]
    exact (and_iff_left not_false).symm
  | expression hd hc hs =>
    rw [htrim] at hc hs
    exact isCanonical_expression_iff hnew hleft hright hd hc ((splitAtArrow?_eq_some_iff hnew).mp hs)
  | plainCommand hd hc hs hp =>
    rw [htrim] at hs hp
    obtain ⟨rest, hmark, hpart⟩ := plainCommand?_eq_some_iff.mp hp
    obtain ⟨c, r, rfl, -, hblank, rfl⟩ := agentMark?_eq_some_iff.mp hmark
    rw [part?_cons hblank] at hpart
    have hno := (splitAtArrow?_eq_none_iff hnew).mp hs
    have hphrase := isPhrase_of_append_part? (a := [_, '>']) hblank hnew hright hno hpart
    exact iff_of_true hphrase ⟨not_opensArrow rfl, not_false⟩
  | openModel hd hc hs hp hm =>
    rw [htrim] at hs hm
    obtain ⟨c, r, rfl, hblank, hpart⟩ := modelPath?_eq_some_iff.mp hm
    have hno := (splitAtArrow?_eq_none_iff hnew).mp hs
    exact iff_of_true (isPhrase_of_append_part? hblank hnew hright hno hpart) ⟨not_opensArrow rfl, not_false⟩

/-- A trimmed line is read, written again and read again: this gives the same statement exactly if no space that
writing puts in completes an arrow or a definition. -/
theorem read_source_of_read_iff {line : Text} {s : Statement} (htrim : line.trim = line) (hnew : '\n' ∉ line)
    (h : Statement.read line = .ok s) :
    Statement.read s.source = .ok s ↔ ¬ OpensArrow s ∧ ¬ OpensDefinition s := by
  rw [read_eq_ok_iff, reads_source_iff]
  exact (reads_of_read_eq_ok h).isCanonical_iff htrim hnew

theorem read_source_of_read_trace :
    let line : Text := "T>\t[x => y] of foo\t=>  STACKTRACE=>boom\\nat foo".toList
    let s := Statement.command .turtle "[x => y] of foo".toList (.stackTrace ">boom\nat foo".toList)
    line.trim = line ∧ '\n' ∉ line ∧ Statement.read line = .ok s ∧ (¬ OpensArrow s ∧ ¬ OpensDefinition s) ∧
      Statement.read s.source = .ok s := by
  intro line s
  have htrim : line.trim = line := by decide +kernel
  have hnew : '\n' ∉ line := by decide +kernel
  have hread : Statement.read line = .ok s := by decide +kernel
  have harrow : ¬ OpensArrow s := by
    rw [opensArrow_iff rfl]
    rintro ⟨w, rest, hhead, -⟩
    exact absurd (List.cons_eq_cons.mp hhead).1 (by decide)
  exact ⟨htrim, hnew, hread, ⟨harrow, not_false⟩, (read_source_of_read_iff htrim hnew hread).mpr ⟨harrow, not_false⟩⟩

/-- A colon behind the keyword becomes a space, and the message that it kept apart from the keyword an arrow. -/
theorem read_source_of_read_fails :
    let line : Text := "O> x => ERROR:=> y".toList
    let s := Statement.command .observer "x".toList (.error "=> y".toList)
    line.trim = line ∧ '\n' ∉ line ∧ Statement.read line = .ok s ∧
      Statement.read s.source = .error (.missingKeyword "y".toList) := by
  decide +kernel

end SuiteRunner.Proofs
