import SuiteRunner.Proofs.LastArrow
import SuiteRunner.Proofs.TraceCodec

/-!
# Outcomes behind the arrow

What is written behind an arrow is read from the trimmed line, so that a message loses the blanks at its end. An
outcome comes back exactly if its payload has none there, holds no line feed and brings no arrow of its own.
-/

namespace SuiteRunner.Proofs

/-- A payload behind a keyword that comes back: one line, flush on the right, without an arrow. -/
structure IsPayload (t : Text) : Prop where
  newline_notMem : '\n' ∉ t
  flushRight : IsFlushRight t
  arrowFree : IsArrowFree t

/-- A text that comes back where nothing is written around it. -/
structure IsPhrase (t : Text) : Prop extends IsPayload t where
  ne_nil : t ≠ []
  flushLeft : IsFlushLeft t

/-- A text is found again behind the last arrow once the line is trimmed. -/
structure StandsBehindArrow (t : Text) : Prop where
  newline_notMem : '\n' ∉ t
  ne_nil : t.dropBlankEnd ≠ []
  arrowFree : IsArrowFree t.dropBlankEnd

lemma IsPhrase.standsBehindArrow {t : Text} (h : IsPhrase t) : StandsBehindArrow t := by
  refine ⟨h.newline_notMem, ?_, ?_⟩
  · rw [dropBlankEnd_eq_self h.flushRight]
    exact h.ne_nil
  · rw [dropBlankEnd_eq_self h.flushRight]
    exact h.arrowFree

lemma isArrowFree_nil : IsArrowFree [] := by
  rintro ⟨before, v, w, after, ht, -⟩
  have hlen := congrArg List.length ht
  simp only [List.length_cons, List.length_nil, List.length_append] at hlen
  omega

lemma keyword_text_split (keyword : Keyword) : ∃ a c, keyword.text = a ++ [c] ∧ isBlank c = false := by
  cases keyword with
  | error => exact ⟨"ERRO".toList, 'R', rfl, by decide⟩
  | compilerError => exact ⟨"COMPILER ERRO".toList, 'R', rfl, by decide⟩
  | stackTrace => exact ⟨"STACKTRAC".toList, 'E', rfl, by decide⟩

lemma keyword_text_facts (keyword : Keyword) :
    keyword.text ≠ [] ∧ IsFlushLeft keyword.text ∧ '\n' ∉ keyword.text ∧ '=' ∉ keyword.text := by
  cases keyword <;> exact ⟨by decide, isFlushLeft_cons.mpr (by decide), by decide, by decide⟩

lemma dropBlankEnd_write (keyword : Keyword) (payload : Text) :
    (keyword.write payload).dropBlankEnd = keyword.text ++ Text.dropBlankEnd (' ' :: payload) := by
  obtain ⟨a, c, htext, hc⟩ := keyword_text_split keyword
  have hcut := dropBlankEnd_append_cons hc a (' ' :: payload)
  rw [Keyword.write, htext]
  simpa using hcut

lemma payload?_write (keyword : Keyword) (payload : Text) :
    keyword.payload? (keyword.write payload).dropBlankEnd = some payload.dropBlankEnd := by
  have hstart : keyword.text.isPrefixOf (keyword.text ++ Text.dropBlankEnd (' ' :: payload)) = true := by
    rw [List.isPrefixOf_iff_prefix]
    exact List.prefix_append _ _
  rw [dropBlankEnd_write, Keyword.payload?, if_pos hstart, List.drop_append, List.drop_eq_nil_of_le (by omega)]
  by_cases h : payload.dropBlankEnd = []
  · rw [dropBlankEnd_space_eq_nil h, h]
    simp
  · rw [dropBlankEnd_cons h]
    simp

lemma payload?_write_of_ne (keyword other : Keyword) (h : other ≠ keyword) (payload : Text) :
    other.payload? (keyword.write payload).dropBlankEnd = none := by
  rw [dropBlankEnd_write]
  generalize Text.dropBlankEnd (' ' :: payload) = rest
  cases keyword <;> cases other <;> try rfl
  all_goals exact absurd rfl h

lemma newline_notMem_of_payload? {keyword : Keyword} {outcome payload : Text}
    (h : keyword.payload? outcome = some payload) (ho : '\n' ∉ outcome) : '\n' ∉ payload := by
  rw [Keyword.payload?] at h
  split at h
  · injection h with h
    rw [← h]
    exact fun hm => ho (List.mem_of_mem_drop hm)
  · cases h

lemma newline_notMem_write {keyword : Keyword} {payload : Text} :
    '\n' ∉ keyword.write payload ↔ '\n' ∉ payload := by
  rw [Keyword.write]
  simp [(keyword_text_facts keyword).2.2.1]

lemma isFlushLeft_write (keyword : Keyword) (payload : Text) : IsFlushLeft (keyword.write payload) := by
  obtain ⟨hne, hflush, -⟩ := keyword_text_facts keyword
  rw [Keyword.write, isFlushLeft_append hne]
  exact hflush

lemma isArrowFree_write_iff {keyword : Keyword} {payload : Text} (h : IsFlushRight payload) :
    IsArrowFree (keyword.write payload).dropBlankEnd ↔ IsArrowFree payload := by
  obtain ⟨-, -, -, hsign⟩ := keyword_text_facts keyword
  have hspace : '=' ∉ ' ' :: keyword.text := by simp [hsign]
  rw [dropBlankEnd_write]
  by_cases hne : payload = []
  · subst hne
    have hshort : ¬ HasArrow (' ' :: keyword.text ++ [' ']) :=
      mt (hasArrow_append_space hspace []).mp isArrowFree_nil
    refine iff_of_true ?_ isArrowFree_nil
    rintro ⟨before, v, w, after, ht, hv, hw⟩
    rw [dropBlankEnd_eq_nil (by simp; decide), List.append_nil] at ht
    exact hshort ⟨before, v, w, after ++ [' '], by rw [ht]; simp, hv, hw⟩
  · have hend : payload.dropBlankEnd ≠ [] := by rwa [dropBlankEnd_eq_self h]
    rw [dropBlankEnd_cons hend, dropBlankEnd_eq_self h]
    exact not_congr (hasArrow_append_space hspace payload)

/-- A payload behind a keyword comes back from the trimmed line exactly if it is made for that. -/
theorem standsBehindArrow_write_iff (keyword : Keyword) (payload : Text) :
    StandsBehindArrow (keyword.write payload) ∧ payload.dropBlankEnd = payload ↔ IsPayload payload := by
  constructor
  · rintro ⟨hstands, hend⟩
    have hflush : IsFlushRight payload := hend ▸ isFlushRight_dropBlankEnd payload
    exact ⟨newline_notMem_write.mp hstands.newline_notMem, hflush,
      (isArrowFree_write_iff hflush).mp hstands.arrowFree⟩
  · intro h
    refine ⟨⟨newline_notMem_write.mpr h.newline_notMem, ?_, (isArrowFree_write_iff h.flushRight).mpr h.arrowFree⟩,
      dropBlankEnd_eq_self h.flushRight⟩
    rw [dropBlankEnd_write]
    simp [(keyword_text_facts keyword).1]

lemma decode_dropBlankEnd_encode_iff {trace : Text} :
    Trace.decode (Trace.encode trace).dropBlankEnd = trace ↔
      ¬ HoldsEscape trace ∧ (Trace.encode trace).dropBlankEnd = Trace.encode trace := by
  constructor
  · intro h
    have hnew : '\n' ∉ (Trace.encode trace).dropBlankEnd :=
      fun hm => newline_notMem_encode trace (mem_of_mem_dropBlankEnd hm)
    refine ⟨h ▸ not_holdsEscape_decode _, ?_⟩
    rw [← encode_decode hnew, h]
  · rintro ⟨hescape, hend⟩
    rw [hend, decode_encode hescape]

/-- A trace that comes back from its written form: it holds no escape, and the written form is a payload. -/
def IsCanonicalTrace (trace : Text) : Prop :=
  ¬ HoldsEscape trace ∧ IsPayload (Trace.encode trace)

theorem standsBehindArrow_encode_iff (keyword : Keyword) (trace : Text) :
    StandsBehindArrow (keyword.write (Trace.encode trace)) ∧
      Trace.decode (Trace.encode trace).dropBlankEnd = trace ↔ IsCanonicalTrace trace := by
  rw [decode_dropBlankEnd_encode_iff, IsCanonicalTrace, ← standsBehindArrow_write_iff keyword]
  tauto

section Command

lemma commandOutcome_read_error (message : Text) :
    CommandOutcome.read (Keyword.error.write message).dropBlankEnd = .ok (.error message.dropBlankEnd) := by
  rw [CommandOutcome.read, payload?_write]

lemma commandOutcome_read_compileError (message : Text) :
    CommandOutcome.read (Keyword.compilerError.write message).dropBlankEnd =
      .ok (.compileError message.dropBlankEnd) := by
  simp only [CommandOutcome.read, payload?_write, payload?_write_of_ne .compilerError .error (by decide)]

lemma commandOutcome_read_stackTrace (trace : Text) :
    CommandOutcome.read (Keyword.stackTrace.write trace).dropBlankEnd =
      .ok (.stackTrace (Trace.decode trace.dropBlankEnd)) := by
  simp only [CommandOutcome.read, payload?_write, payload?_write_of_ne .stackTrace .error (by decide),
    payload?_write_of_ne .stackTrace .compilerError (by decide)]

lemma of_commandOutcome_read {outcome : Text} {expected : CommandOutcome}
    (h : CommandOutcome.read outcome = .ok expected) (ho : '\n' ∉ outcome) :
    expected ≠ .success ∧ '\n' ∉ expected.source := by
  have harrow : '\n' ∉ arrow := by decide
  unfold CommandOutcome.read at h
  split at h
  next message hm =>
    cases h
    have hp := newline_notMem_of_payload? hm ho
    simp [CommandOutcome.source, harrow, newline_notMem_write, hp]
  next =>
    split at h
    next message hm =>
      cases h
      have hp := newline_notMem_of_payload? hm ho
      simp [CommandOutcome.source, harrow, newline_notMem_write, hp]
    next =>
      split at h
      next trace ht =>
        cases h
        simp [CommandOutcome.source, harrow, newline_notMem_write, newline_notMem_encode]
      next => cases h

end Command

section Expression

lemma expressionOutcome_read_error (message : Text) :
    ExpressionOutcome.read (Keyword.error.write message).dropBlankEnd = .error message.dropBlankEnd := by
  rw [ExpressionOutcome.read, payload?_write]

lemma expressionOutcome_read_stackTrace (trace : Text) :
    ExpressionOutcome.read (Keyword.stackTrace.write trace).dropBlankEnd =
      .stackTrace (Trace.decode trace.dropBlankEnd) := by
  simp only [ExpressionOutcome.read, payload?_write, payload?_write_of_ne .stackTrace .error (by decide)]

lemma payload?_eq_none_iff {keyword : Keyword} {outcome : Text} :
    keyword.payload? outcome = none ↔ ¬ keyword.text <+: outcome := by
  rw [Keyword.payload?, ← List.isPrefixOf_iff_prefix]
  by_cases h : keyword.text.isPrefixOf outcome = true <;> simp [h]

lemma expressionOutcome_read_eq_result_iff {outcome value : Text} :
    ExpressionOutcome.read outcome = .result value ↔
      outcome = value ∧ ¬ Keyword.error.text <+: value ∧ ¬ Keyword.stackTrace.text <+: value := by
  unfold ExpressionOutcome.read
  cases he : Keyword.error.payload? outcome with
  | some message =>
    refine iff_of_false (by simp) ?_
    rintro ⟨rfl, hstart, -⟩
    rw [payload?_eq_none_iff.mpr hstart] at he
    cases he
  | none =>
    cases ht : Keyword.stackTrace.payload? outcome with
    | some trace =>
      refine iff_of_false (by simp) ?_
      rintro ⟨rfl, -, hstart⟩
      rw [payload?_eq_none_iff.mpr hstart] at ht
      cases ht
    | none =>
      constructor
      · intro h
        cases h
        exact ⟨rfl, payload?_eq_none_iff.mp he, payload?_eq_none_iff.mp ht⟩
      · rintro ⟨rfl, -, -⟩
        rfl

lemma newline_notMem_expressionOutcome_read {outcome : Text} (ho : '\n' ∉ outcome) :
    '\n' ∉ (ExpressionOutcome.read outcome).source := by
  have harrow : '\n' ∉ arrow := by decide
  unfold ExpressionOutcome.read
  split
  next message hm =>
    have hp := newline_notMem_of_payload? hm ho
    simp [ExpressionOutcome.source, harrow, newline_notMem_write, hp]
  next =>
    split
    next trace ht => simp [ExpressionOutcome.source, harrow, newline_notMem_write, newline_notMem_encode]
    next => simp [ExpressionOutcome.source, harrow, ho]

end Expression

end SuiteRunner.Proofs
