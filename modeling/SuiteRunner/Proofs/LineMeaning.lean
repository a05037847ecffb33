import SuiteRunner.Proofs.CanonicalStatement

/-!
# What a line means

The grammar of lines is written down once more, this time by positions: where the last arrow stands, what is in front
of it and what is behind it. `Means line result` has one rule for each form of line and for each way in which a line is
refused. The main statement is that reading a trimmed line gives what the rules say, and nothing else.
-/

namespace SuiteRunner.Proofs

/-- A blank, the sign `=>` and a blank stand at the index. -/
def ArrowAt (t : Text) (k : Nat) : Prop :=
  (∃ v, t[k]? = some v ∧ isBlank v = true) ∧ t[k + 1]? = some '=' ∧ t[k + 2]? = some '>' ∧
    ∃ w, t[k + 3]? = some w ∧ isBlank w = true

/-- The index is the largest one with an arrow. -/
def IsLastArrowAt (t : Text) (k : Nat) : Prop :=
  ArrowAt t k ∧ ∀ j, ArrowAt t j → j ≤ k

def outcomeFrom (line : Text) (k : Nat) : Text :=
  Text.dropBlank (line.drop (k + 3))

def commandUpTo (line : Text) (k : Nat) : Text :=
  Text.dropBlank ((line.take k).drop 2)

/-- The outcome starts with the keyword. One character behind it is passed over, whatever it is. -/
def Announces (keyword : Keyword) (outcome payload : Text) : Prop :=
  keyword.text <+: outcome ∧ payload = outcome.drop (keyword.text.length + 1)

inductive CommandMeans (outcome : Text) : CommandOutcome → Prop where
  | error {message : Text} (h : Announces .error outcome message) : CommandMeans outcome (.error message)
  | compileError {message : Text} (h : Announces .compilerError outcome message) :
    CommandMeans outcome (.compileError message)
  | stackTrace {payload : Text} (h : Announces .stackTrace outcome payload) :
    CommandMeans outcome (.stackTrace (Trace.decode payload))

inductive ExpressionMeans (outcome : Text) : ExpressionOutcome → Prop where
  | error {message : Text} (h : Announces .error outcome message) : ExpressionMeans outcome (.error message)
  | stackTrace {payload : Text} (h : Announces .stackTrace outcome payload) :
    ExpressionMeans outcome (.stackTrace (Trace.decode payload))
  | result (he : ¬ Keyword.error.text <+: outcome) (ht : ¬ Keyword.stackTrace.text <+: outcome) :
    ExpressionMeans outcome (.result outcome)

def agentCodes : List Char :=
  ['O', 'T', 'P', 'L']

/-- The word OPEN, the mark `>` and a blank stand at the start. -/
def IsModelLine (line : Text) : Prop :=
  ∃ (c : Char) (rest : Text), line = "OPEN>".toList ++ c :: rest ∧ isBlank c = true

/-- What a trimmed line of one piece holds, or why it is refused. -/
inductive Means (line : Text) : Except ParseError.Cause Statement → Prop where
  | definition (hd : StartsDefinition line) : Means line (.ok (.definition line))
  | judgedCommand {k : Nat} {agent : Agent} {expected : CommandOutcome} (hd : ¬ StartsDefinition line)
      (hk : IsLastArrowAt line k) (hmark : IsMarked line) (hlong : 3 ≤ k) (hcode : line.head? = some agent.code)
      (he : CommandMeans (outcomeFrom line k) expected) :
      Means line (.ok (.command agent (commandUpTo line k) expected))
  | judgedStranger {k : Nat} {code : Char} (hd : ¬ StartsDefinition line) (hk : IsLastArrowAt line k)
      (hmark : IsMarked line) (hlong : 3 ≤ k) (hcode : line.head? = some code) (hstranger : code ∉ agentCodes) :
      Means line (.error (.unrecognizedAgent [code]))
  | missingKeyword {k : Nat} {agent : Agent} (hd : ¬ StartsDefinition line) (hk : IsLastArrowAt line k)
      (hmark : IsMarked line) (hlong : 3 ≤ k) (hcode : line.head? = some agent.code)
      (hno : ∀ expected, ¬ CommandMeans (outcomeFrom line k) expected) :
      Means line (.error (.missingKeyword (outcomeFrom line k)))
  | expression {k : Nat} {expected : ExpressionOutcome} (hd : ¬ StartsDefinition line) (hk : IsLastArrowAt line k)
      (hshort : ¬ (IsMarked line ∧ 3 ≤ k)) (he : ExpressionMeans (outcomeFrom line k) expected) :
      Means line (.ok (.expression (line.take k) expected))
  | plainCommand {agent : Agent} (hd : ¬ StartsDefinition line) (hno : ∀ k, ¬ ArrowAt line k)
      (hmark : IsMarked line) (hcode : line.head? = some agent.code) :
      Means line (.ok (.command agent (Text.dropBlank (line.drop 2)) .success))
  | plainStranger {code : Char} (hd : ¬ StartsDefinition line) (hno : ∀ k, ¬ ArrowAt line k)
      (hmark : IsMarked line) (hcode : line.head? = some code) (hstranger : code ∉ agentCodes) :
      Means line (.error (.unrecognizedAgent [code]))
  | openModel (hd : ¬ StartsDefinition line) (hno : ∀ k, ¬ ArrowAt line k) (hopen : IsModelLine line) :
      Means line (.ok (.openModel (Text.dropBlank (line.drop 5))))
  | unrecognizedLine (hd : ¬ StartsDefinition line) (hno : ∀ k, ¬ ArrowAt line k) (hmark : ¬ IsMarked line)
      (hopen : ¬ IsModelLine line) : Means line (.error (.unrecognizedLine line))

section Arrows

lemma drop_of_getElem? {t : Text} {k : Nat} {c : Char} (h : t[k]? = some c) : t.drop k = c :: t.drop (k + 1) := by
  obtain ⟨hk, rfl⟩ := List.getElem?_eq_some_iff.mp h
  exact List.drop_eq_getElem_cons hk

lemma arrowAt_iff {t : Text} {k : Nat} :
    ArrowAt t k ↔ ∃ v w, isBlank v = true ∧ isBlank w = true ∧
      t.drop k = v :: '=' :: '>' :: w :: t.drop (k + 4) := by
  constructor
  · rintro ⟨⟨v, hv, hvb⟩, hequal, hmore, w, hw, hwb⟩
    refine ⟨v, w, hvb, hwb, ?_⟩
    rw [drop_of_getElem? hv, drop_of_getElem? hequal, drop_of_getElem? hmore, drop_of_getElem? hw]
  · rintro ⟨v, w, hvb, hwb, ht⟩
    have hget (i : Nat) : t[k + i]? = (v :: '=' :: '>' :: w :: t.drop (k + 4))[i]? := by
      rw [← ht, List.getElem?_drop]
    exact ⟨⟨v, hget 0, hvb⟩, hget 1, hget 2, w, hget 3, hwb⟩

lemma arrowAt_drop {t : Text} {i k : Nat} : ArrowAt (t.drop i) k ↔ ArrowAt t (i + k) := by
  simp only [ArrowAt, List.getElem?_drop, Nat.add_assoc]

lemma hasArrow_iff {t : Text} : HasArrow t ↔ ∃ k, ArrowAt t k := by
  constructor
  · rintro ⟨before, v, w, after, rfl, hv, hw⟩
    refine ⟨before.length, arrowAt_iff.mpr ⟨v, w, hv, hw, ?_⟩⟩
    simp
  · rintro ⟨k, hk⟩
    obtain ⟨v, w, hv, hw, ht⟩ := arrowAt_iff.mp hk
    refine ⟨t.take k, v, w, t.drop (k + 4), ?_, hv, hw⟩
    rw [← ht, List.take_append_drop]

lemma isLastArrowAt_iff {t : Text} {k : Nat} : IsLastArrowAt t k ↔ ArrowAt t k ∧ ¬ HasArrow (t.drop (k + 3)) := by
  rw [IsLastArrowAt, and_congr_right_iff]
  rintro ⟨-, hequal, hmore, -⟩
  rw [hasArrow_iff]
  constructor
  · rintro hlast ⟨j, hj⟩
    have hle := hlast _ (arrowAt_drop.mp hj)
    omega
  · intro hno j hj
    by_contra hlt
    have hcases : j = k + 1 ∨ j = k + 2 ∨ k + 3 ≤ j := by omega
    rcases hcases with rfl | rfl | hle
    · obtain ⟨⟨v, hv, hvb⟩, -⟩ := hj
      rw [hequal] at hv
      cases hv
      cases hvb
    · obtain ⟨⟨v, hv, hvb⟩, -⟩ := hj
      rw [hmore] at hv
      cases hv
      cases hvb
    · obtain ⟨i, rfl⟩ := Nat.exists_eq_add_of_le hle
      exact hno ⟨i, arrowAt_drop.mpr hj⟩

lemma IsLastArrowAt.isLastArrow {t : Text} {k : Nat} (h : IsLastArrowAt t k) :
    IsLastArrow t (t.take k) (outcomeFrom t k) := by
  obtain ⟨hk, hno⟩ := isLastArrowAt_iff.mp h
  obtain ⟨v, w, hv, hw, ht⟩ := arrowAt_iff.mp hk
  have hrest : t.drop (k + 3) = w :: t.drop (k + 4) := by
    rw [← List.drop_drop, ht]
    rfl
  rw [hrest] at hno
  refine ⟨v, w, t.drop (k + 4), ?_, hv, hw, hno, ?_⟩
  · rw [← ht, List.take_append_drop]
  · rw [outcomeFrom, hrest, dropBlank_cons hw]

lemma exists_isLastArrowAt {t : Text} (h : HasArrow t) : ∃ k, IsLastArrowAt t k := by
  obtain ⟨a, o, v, w, rest, rfl, hv, hw, hlast, -⟩ := exists_isLastArrow h
  refine ⟨a.length, isLastArrowAt_iff.mpr ⟨arrowAt_iff.mpr ⟨v, w, hv, hw, by simp⟩, ?_⟩⟩
  have hrest : (a ++ v :: '=' :: '>' :: w :: rest).drop (a.length + 3) = w :: rest := by
    rw [← List.drop_drop, List.drop_left]
    rfl
  rwa [hrest]

lemma IsLastArrowAt.drop {t : Text} {i k : Nat} (h : IsLastArrowAt t (i + k)) : IsLastArrowAt (t.drop i) k := by
  refine ⟨arrowAt_drop.mpr h.1, fun j hj => ?_⟩
  have hle := h.2 _ (arrowAt_drop.mp hj)
  omega

end Arrows

section Outcomes

lemma payload?_eq_some_iff {keyword : Keyword} {outcome payload : Text} :
    keyword.payload? outcome = some payload ↔ Announces keyword outcome payload := by
  rw [Keyword.payload?, Announces, ← List.isPrefixOf_iff_prefix]
  by_cases h : keyword.text.isPrefixOf outcome = true <;> simp [h, eq_comm]

lemma keyword_eq_of_announced {keyword other : Keyword} {outcome : Text} (h : keyword.text <+: outcome)
    (ho : other.text <+: outcome) : keyword = other := by
  obtain ⟨a, rfl⟩ := h
  obtain ⟨b, hb⟩ := ho
  cases keyword <;> cases other <;> first | rfl | exact absurd (List.cons_eq_cons.mp hb).1 (by decide)

lemma payload?_eq_none_of_announces {keyword other : Keyword} {outcome payload : Text} (hne : other ≠ keyword)
    (h : Announces keyword outcome payload) : other.payload? outcome = none :=
  payload?_eq_none_iff.mpr fun ho => hne (keyword_eq_of_announced ho h.1)

lemma commandOutcome_read_of_means {outcome : Text} {expected : CommandOutcome} (h : CommandMeans outcome expected) :
    CommandOutcome.read outcome = .ok expected := by
  cases h with
  | error h => rw [CommandOutcome.read, payload?_eq_some_iff.mpr h]
  | compileError h =>
    have he : Keyword.error.payload? outcome = none := payload?_eq_none_of_announces (by decide) h
    simp only [CommandOutcome.read, he, payload?_eq_some_iff.mpr h]
  | stackTrace h =>
    have he : Keyword.error.payload? outcome = none := payload?_eq_none_of_announces (by decide) h
    have hc : Keyword.compilerError.payload? outcome = none := payload?_eq_none_of_announces (by decide) h
    simp only [CommandOutcome.read, he, hc, payload?_eq_some_iff.mpr h]

lemma commandOutcome_read_of_no_means {outcome : Text} (h : ∀ expected, ¬ CommandMeans outcome expected) :
    CommandOutcome.read outcome = .error (.missingKeyword outcome) := by
  have hnone {keyword : Keyword} (hk : ∀ payload, ¬ Announces keyword outcome payload) :
      keyword.payload? outcome = none :=
    Option.eq_none_iff_forall_ne_some.mpr fun payload hp => hk payload (payload?_eq_some_iff.mp hp)
  have he := hnone fun payload hp => h _ (.error hp)
  have hc := hnone fun payload hp => h _ (.compileError hp)
  have ht := hnone fun payload hp => h _ (.stackTrace hp)
  simp only [CommandOutcome.read, he, hc, ht]

lemma expressionOutcome_read_of_means {outcome : Text} {expected : ExpressionOutcome}
    (h : ExpressionMeans outcome expected) : ExpressionOutcome.read outcome = expected := by
  cases h with
  | error h => rw [ExpressionOutcome.read, payload?_eq_some_iff.mpr h]
  | stackTrace h =>
    have he : Keyword.error.payload? outcome = none := payload?_eq_none_of_announces (by decide) h
    simp only [ExpressionOutcome.read, he, payload?_eq_some_iff.mpr h]
  | result he ht => exact expressionOutcome_read_eq_result_iff.mpr ⟨rfl, he, ht⟩

lemma exists_expressionMeans (outcome : Text) : ∃ expected, ExpressionMeans outcome expected := by
  by_cases he : Keyword.error.text <+: outcome
  · exact ⟨_, .error ⟨he, rfl⟩⟩
  · by_cases ht : Keyword.stackTrace.text <+: outcome
    · exact ⟨_, .stackTrace ⟨ht, rfl⟩⟩
    · exact ⟨_, .result he ht⟩

lemma agent_read_of_stranger {code : Char} (h : code ∉ agentCodes) :
    Agent.read [code] = .error (.unrecognizedAgent [code]) := by
  have hnone : Agent.ofCode? code = none := by
    cases hcode : Agent.ofCode? code with
    | none => rfl
    | some agent =>
      rw [eq_code_of_ofCode? hcode] at h
      cases agent <;> exact absurd (by decide) h
  rw [Agent.read, Agent.ofText?, hnone]

lemma exists_agent_code {code : Char} (h : code ∈ agentCodes) : ∃ agent : Agent, code = agent.code := by
  simp only [agentCodes, List.mem_cons, List.not_mem_nil, or_false] at h
  rcases h with rfl | rfl | rfl | rfl
  · exact ⟨.observer, rfl⟩
  · exact ⟨.turtle, rfl⟩
  · exact ⟨.patch, rfl⟩
  · exact ⟨.link, rfl⟩

end Outcomes

section Marks

lemma IsMarked.exists_code {t : Text} (h : IsMarked t) :
    (∃ agent : Agent, t.head? = some agent.code) ∨ ∃ code, t.head? = some code ∧ code ∉ agentCodes := by
  obtain ⟨code, c, r, rfl, -⟩ := h
  by_cases hcode : code ∈ agentCodes
  · obtain ⟨agent, rfl⟩ := exists_agent_code hcode
    exact .inl ⟨agent, rfl⟩
  · exact .inr ⟨code, rfl, hcode⟩

lemma agentMark?_eq_none {t : Text} (h : ¬ IsMarked t) : agentMark? t = none := by
  cases hmark : agentMark? t with
  | none => rfl
  | some p =>
    obtain ⟨c, r, ht, hcapital, hblank, -⟩ := agentMark?_eq_some_iff.mp hmark
    exact absurd ⟨_, c, r, ht, hcapital, hblank⟩ h

lemma plainCommand?_eq_none {t : Text} (h : ¬ IsMarked t) : plainCommand? t = none := by
  rw [plainCommand?, agentMark?_eq_none h]
  rfl

variable {line : Text} (hnew : '\n' ∉ line)
include hnew

lemma judgedCommand?_of_arrow {code : Char} {k : Nat} (hmark : IsMarked line) (hk : IsLastArrowAt line k)
    (hlong : 3 ≤ k) (hcode : line.head? = some code) :
    judgedCommand? line = some (code, commandUpTo line k, outcomeFrom line k) := by
  obtain ⟨first, c, r, rfl, hcapital, hblank⟩ := hmark
  obtain rfl : first = code := by simpa using hcode
  obtain ⟨i, rfl⟩ := Nat.exists_eq_add_of_le hlong
  have hr : '\n' ∉ r := fun hm => hnew (by simp [hm])
  have hlast : IsLastArrow r (r.take i) (outcomeFrom r i) := IsLastArrowAt.isLastArrow hk.drop
  have hcommand : commandUpTo (first :: '>' :: c :: r) (3 + i) = Text.dropBlank (r.take i) := by
    rw [commandUpTo, Nat.add_comm]
    exact dropBlank_cons hblank _
  have houtcome : outcomeFrom (first :: '>' :: c :: r) (3 + i) = outcomeFrom r i := by
    rw [outcomeFrom, Nat.add_assoc, Nat.add_comm]
    rfl
  rw [judgedCommand?_marked hcapital hblank hr, splitAtArrow?_of_isLastArrow hr hlast, hcommand, houtcome]
  rfl

lemma judgedCommand?_of_no_arrow (h : ∀ k, 3 ≤ k → IsMarked line → ¬ IsLastArrowAt line k) :
    judgedCommand? line = none := by
  by_cases hmark : IsMarked line
  · obtain ⟨code, c, r, rfl, hcapital, hblank⟩ := id hmark
    have hr : '\n' ∉ r := fun hm => hnew (by simp [hm])
    have hno : ¬ HasArrow r := by
      intro harrow
      obtain ⟨k, hk⟩ := exists_isLastArrowAt (harrow.append [code, '>', c])
      have hlater : ∃ i, ArrowAt (code :: '>' :: c :: r) (3 + i) := by
        obtain ⟨i, hi⟩ := hasArrow_iff.mp harrow
        exact ⟨i, arrowAt_drop.mp hi⟩
      obtain ⟨i, hi⟩ := hlater
      have hle := hk.2 _ hi
      exact h k (by omega) hmark hk
    rw [judgedCommand?_marked hcapital hblank hr, splitAtArrow?_eq_none hno]
    rfl
  · rw [judgedCommand?, agentMark?_eq_none hmark]
    rfl

lemma plainCommand?_of_marked {code : Char} (hmark : IsMarked line) (hcode : line.head? = some code) :
    plainCommand? line = some (code, Text.dropBlank (line.drop 2)) := by
  obtain ⟨first, c, r, rfl, hcapital, hblank⟩ := hmark
  obtain rfl : first = code := by simpa using hcode
  have hr : '\n' ∉ r := fun hm => hnew (by simp [hm])
  rw [plainCommand?_marked hcapital hblank hr]
  exact congrArg (fun t => some (first, t)) (dropBlank_cons hblank r).symm

lemma modelPath?_of_modelLine (h : IsModelLine line) : modelPath? line = some (Text.dropBlank (line.drop 5)) := by
  obtain ⟨c, r, rfl, hblank⟩ := h
  have hr : '\n' ∉ r := fun hm => hnew (by simp [hm])
  rw [modelPath?_eq_some_iff]
  refine ⟨c, r, rfl, hblank, ?_⟩
  rw [part?_of_newline_notMem hr]
  exact congrArg some (dropBlank_cons hblank r).symm

omit hnew in
lemma modelPath?_eq_none (h : ¬ IsModelLine line) : modelPath? line = none := by
  cases hm : modelPath? line with
  | none => rfl
  | some path =>
    obtain ⟨c, r, hline, hblank, -⟩ := modelPath?_eq_some_iff.mp hm
    exact absurd ⟨c, r, hline, hblank⟩ h

omit hnew in
lemma IsModelLine.not_isMarked (h : IsModelLine line) : ¬ IsMarked line := by
  rintro ⟨code, c, r, rfl, -⟩
  obtain ⟨d, rest, hline, -⟩ := h
  exact absurd (List.cons_eq_cons.mp (List.cons_eq_cons.mp hline).2).1 (by decide)

end Marks

section Reading

variable {line : Text} (htrim : line.trim = line) (hnew : '\n' ∉ line)
include htrim hnew

lemma read_of_no_arrow (hd : ¬ StartsDefinition line) (hno : ∀ k, ¬ ArrowAt line k) :
    Statement.read line = Statement.readPlain line line := by
  have hc : judgedCommand? line.trim = none := by
    rw [htrim]
    exact judgedCommand?_of_no_arrow hnew fun k _ _ hk => hno k hk.1
  have hs : splitAtArrow? line.trim = none := by
    rw [htrim]
    exact splitAtArrow?_eq_none fun harrow => not_exists.mpr hno (hasArrow_iff.mp harrow)
  rw [read_of_not_judgedCommand hd hc, hs, htrim]

lemma read_of_arrow {code : Char} {k : Nat} (hd : ¬ StartsDefinition line) (hk : IsLastArrowAt line k)
    (hmark : IsMarked line) (hlong : 3 ≤ k) (hcode : line.head? = some code) :
    Statement.read line = (do
      let agent ← Agent.read [code]
      let expected ← CommandOutcome.read (outcomeFrom line k)
      return .command agent (commandUpTo line k) expected) := by
  apply read_of_judgedCommand hd
  rw [htrim]
  exact judgedCommand?_of_arrow hnew hmark hk hlong hcode

/-- One case for each rule. -/
theorem read_eq_of_means {result : Except ParseError.Cause Statement} (h : Means line result) :
    Statement.read line = result := by
  cases h with
  | definition hd => exact read_of_startsDefinition hd
  | judgedCommand hd hk hmark hlong hcode he =>
    rw [read_of_arrow htrim hnew hd hk hmark hlong hcode, agent_read_code, commandOutcome_read_of_means he]
    rfl
  | judgedStranger hd hk hmark hlong hcode hstranger =>
    rw [read_of_arrow htrim hnew hd hk hmark hlong hcode, agent_read_of_stranger hstranger]
    rfl
  | missingKeyword hd hk hmark hlong hcode hno =>
    rw [read_of_arrow htrim hnew hd hk hmark hlong hcode, agent_read_code, commandOutcome_read_of_no_means hno]
    rfl
  | @expression k _ hd hk hshort he =>
    have hc : judgedCommand? line.trim = none := by
      rw [htrim]
      refine judgedCommand?_of_no_arrow hnew fun j hj hmark hlast => hshort ⟨hmark, ?_⟩
      exact hj.trans (hk.2 j hlast.1)
    have hs : splitAtArrow? line.trim = some (line.take k, outcomeFrom line k) := by
      rw [htrim]
      exact splitAtArrow?_of_isLastArrow hnew hk.isLastArrow
    rw [← expressionOutcome_read_of_means he, read_of_not_judgedCommand hd hc, hs]
  | plainCommand hd hno hmark hcode =>
    rw [read_of_no_arrow htrim hnew hd hno, readPlain_of_plainCommand (plainCommand?_of_marked hnew hmark hcode),
      agent_read_code]
    rfl
  | plainStranger hd hno hmark hcode hstranger =>
    rw [read_of_no_arrow htrim hnew hd hno, readPlain_of_plainCommand (plainCommand?_of_marked hnew hmark hcode),
      agent_read_of_stranger hstranger]
    rfl
  | openModel hd hno hopen =>
    rw [read_of_no_arrow htrim hnew hd hno, readPlain_of_not_plainCommand (plainCommand?_eq_none hopen.not_isMarked),
      modelPath?_of_modelLine hnew hopen]
  | unrecognizedLine hd hno hmark hopen =>
    rw [read_of_no_arrow htrim hnew hd hno, readPlain_of_not_plainCommand (plainCommand?_eq_none hmark),
      modelPath?_eq_none hopen]

omit htrim hnew in
/-- Every line has a form. -/
theorem exists_means (line : Text) : ∃ result, Means line result := by
  by_cases hd : StartsDefinition line
  · exact ⟨_, .definition hd⟩
  by_cases harrow : HasArrow line
  · obtain ⟨k, hk⟩ := exists_isLastArrowAt harrow
    by_cases hjudged : IsMarked line ∧ 3 ≤ k
    · obtain ⟨hmark, hlong⟩ := hjudged
      rcases hmark.exists_code with ⟨agent, hcode⟩ | ⟨code, hcode, hstranger⟩
      · by_cases he : ∃ expected, CommandMeans (outcomeFrom line k) expected
        · obtain ⟨expected, he⟩ := he
          exact ⟨_, .judgedCommand hd hk hmark hlong hcode he⟩
        · exact ⟨_, .missingKeyword hd hk hmark hlong hcode (not_exists.mp he)⟩
      · exact ⟨_, .judgedStranger hd hk hmark hlong hcode hstranger⟩
    · obtain ⟨expected, he⟩ := exists_expressionMeans (outcomeFrom line k)
      exact ⟨_, .expression hd hk hjudged he⟩
  · have hno : ∀ k, ¬ ArrowAt line k := not_exists.mp (mt hasArrow_iff.mpr harrow)
    by_cases hmark : IsMarked line
    · rcases hmark.exists_code with ⟨agent, hcode⟩ | ⟨code, hcode, hstranger⟩
      · exact ⟨_, .plainCommand hd hno hmark hcode⟩
      · exact ⟨_, .plainStranger hd hno hmark hcode hstranger⟩
    · by_cases hopen : IsModelLine line
      · exact ⟨_, .openModel hd hno hopen⟩
      · exact ⟨_, .unrecognizedLine hd hno hmark hopen⟩

end Reading

/-- A trimmed line is read as the rules say: it holds the statement that they give, or it is refused for the reason
that they give. -/
theorem read_eq_iff_means {line : Text} (htrim : line.trim = line) (hnew : '\n' ∉ line)
    (result : Except ParseError.Cause Statement) : Statement.read line = result ↔ Means line result := by
  constructor
  · rintro rfl
    obtain ⟨result, h⟩ := exists_means line
    rw [read_eq_of_means htrim hnew h]
    exact h
  · exact read_eq_of_means htrim hnew

theorem means_of_second_arrow :
    let line : Text := "T>  ask a => b\t=>  COMPILER ERROR: no b".toList
    let s := Statement.command .turtle "ask a => b".toList (.compileError " no b".toList)
    line.trim = line ∧ '\n' ∉ line ∧ (Statement.read line = .ok s ↔ Means line (.ok s)) ∧ Means line (.ok s) := by
  intro line s
  have htrim : line.trim = line := by decide +kernel
  have hnew : '\n' ∉ line := by decide +kernel
  have hread : Statement.read line = .ok s := by decide +kernel
  have hmeans := read_eq_iff_means htrim hnew (.ok s)
  exact ⟨htrim, hnew, hmeans, hmeans.mp hread⟩

end SuiteRunner.Proofs
