import SuiteRunner.Proofs.LastArrow

/-!
# The grammar of a line

`Reads line statement` lists the ways in which a line holds a statement, one rule for each form of line. Reading
succeeds exactly with the statements that the rules give.
-/

namespace SuiteRunner.Proofs

/-- The line starts like a definition. -/
def StartsDefinition (line : Text) : Prop :=
  ∃ start ∈ definitionStarts, start <+: line

/-- The letter, the command and the outcome of a text that is read as a command with an outcome. -/
def judgedCommand? (t : Text) : Option (Char × Text × Text) :=
  (agentMark? t).bind fun p => (commandAtArrow? p.2).map (p.1, ·)

/-- The letter and the command of a text that is read as a command without an outcome. -/
def plainCommand? (t : Text) : Option (Char × Text) :=
  (agentMark? t).bind fun p => (part? p.2).map (p.1, ·)

/-- What a line may hold. The definition is looked for in the line as it stands, all else in the trimmed line. -/
inductive Reads (line : Text) : Statement → Prop where
  | definition (hd : StartsDefinition line) : Reads line (.definition line)
  | judgedCommand {agent : Agent} {text outcome : Text} {expected : CommandOutcome}
      (hd : ¬ StartsDefinition line) (hc : judgedCommand? line.trim = some (agent.code, text, outcome))
      (he : CommandOutcome.read outcome = .ok expected) : Reads line (.command agent text expected)
  | expression {text outcome : Text} (hd : ¬ StartsDefinition line) (hc : judgedCommand? line.trim = none)
      (hs : splitAtArrow? line.trim = some (text, outcome)) :
      Reads line (.expression text (ExpressionOutcome.read outcome))
  | plainCommand {agent : Agent} {text : Text} (hd : ¬ StartsDefinition line)
      (hc : judgedCommand? line.trim = none) (hs : splitAtArrow? line.trim = none)
      (hp : plainCommand? line.trim = some (agent.code, text)) : Reads line (.command agent text .success)
  | openModel {path : Text} (hd : ¬ StartsDefinition line) (hc : judgedCommand? line.trim = none)
      (hs : splitAtArrow? line.trim = none) (hp : plainCommand? line.trim = none)
      (hm : modelPath? line.trim = some path) : Reads line (.openModel path)

lemma any_isPrefixOf_iff (line : Text) :
    definitionStarts.any (·.isPrefixOf line) = true ↔ StartsDefinition line := by
  simp [StartsDefinition, List.any_eq_true, List.isPrefixOf_iff_prefix]

lemma read_of_startsDefinition {line : Text} (hd : StartsDefinition line) :
    Statement.read line = .ok (.definition line) := by
  rw [Statement.read, if_pos ((any_isPrefixOf_iff line).mpr hd)]

lemma read_of_judgedCommand {line text outcome : Text} {code : Char} (hd : ¬ StartsDefinition line)
    (hc : judgedCommand? line.trim = some (code, text, outcome)) :
    Statement.read line = (do
      let agent ← Agent.read [code]
      let expected ← CommandOutcome.read outcome
      return .command agent text expected) := by
  rw [judgedCommand?] at hc
  rw [Statement.read, if_neg (mt (any_isPrefixOf_iff line).mp hd)]
  simp only [hc]

lemma read_of_not_judgedCommand {line : Text} (hd : ¬ StartsDefinition line)
    (hc : judgedCommand? line.trim = none) :
    Statement.read line =
      match splitAtArrow? line.trim with
      | some (before, outcome) => .ok (.expression before (ExpressionOutcome.read outcome))
      | none => Statement.readPlain line line.trim := by
  rw [judgedCommand?] at hc
  rw [Statement.read, if_neg (mt (any_isPrefixOf_iff line).mp hd)]
  dsimp only
  split
  · next hsome => exact absurd (hc.symm.trans hsome) (Option.some_ne_none _).symm
  · rfl

lemma readPlain_of_plainCommand {line t text : Text} {code : Char} (hp : plainCommand? t = some (code, text)) :
    Statement.readPlain line t = (Agent.read [code]).map fun agent => .command agent text .success := by
  rw [plainCommand?] at hp
  rw [Statement.readPlain]
  simp only [hp]

lemma readPlain_of_not_plainCommand {line t : Text} (hp : plainCommand? t = none) :
    Statement.readPlain line t =
      match modelPath? t with
      | some path => .ok (.openModel path)
      | none => .error (.unrecognizedLine line) := by
  rw [plainCommand?] at hp
  rw [Statement.readPlain]
  split
  · next hsome => exact absurd (hp.symm.trans hsome) (Option.some_ne_none _).symm
  · rfl

lemma agent_read_code (agent : Agent) : Agent.read [agent.code] = .ok agent := by
  rw [Agent.read, Agent.ofText?, Agent.ofCode?_code]

lemma eq_code_of_ofCode? {code : Char} {agent : Agent} (h : Agent.ofCode? code = some agent) :
    code = agent.code := by
  unfold Agent.ofCode? at h
  split at h <;> cases h <;> rfl

lemma eq_code_of_agent_read {code : Char} {agent : Agent} (h : Agent.read [code] = .ok agent) :
    code = agent.code := by
  rw [Agent.read, Agent.ofText?] at h
  cases hcode : Agent.ofCode? code with
  | none => rw [hcode] at h; cases h
  | some found =>
    rw [hcode] at h
    injection h with h
    exact eq_code_of_ofCode? (h ▸ hcode)

lemma agentMark?_eq_some_iff {t rest : Text} {code : Char} :
    agentMark? t = some (code, rest) ↔
      ∃ (c : Char) (r : Text), t = code :: '>' :: c :: r ∧ isCapital code = true ∧ isBlank c = true ∧
        rest = c :: r := by
  constructor
  · intro h
    unfold agentMark? at h
    split at h
    next code' c r =>
      by_cases hb : (isCapital code' && isBlank c) = true
      · rw [if_pos hb] at h
        rw [Bool.and_eq_true] at hb
        injection h with h
        obtain ⟨rfl, rfl⟩ := Prod.ext_iff.mp h
        exact ⟨c, r, rfl, hb.1, hb.2, rfl⟩
      · simp [hb] at h
    next => cases h
  · rintro ⟨c, r, rfl, hcode, hc, rfl⟩
    simp [agentMark?, hcode, hc]

lemma bind_agentMark?_eq_some_iff {α : Type} {f : Text → Option α} {t : Text} {code : Char} {x : α} :
    ((agentMark? t).bind fun p => (f p.2).map (p.1, ·)) = some (code, x) ↔
      ∃ rest, agentMark? t = some (code, rest) ∧ f rest = some x := by
  rw [Option.bind_eq_some_iff]
  constructor
  · rintro ⟨⟨code', rest⟩, hmark, hcut⟩
    simp only [Option.map_eq_some_iff, Prod.mk.injEq] at hcut
    obtain ⟨y, hy, rfl, rfl⟩ := hcut
    exact ⟨rest, hmark, hy⟩
  · rintro ⟨rest, hmark, hcut⟩
    exact ⟨(code, rest), hmark, by rw [hcut]; rfl⟩

lemma judgedCommand?_eq_some_iff {t text outcome : Text} {code : Char} :
    judgedCommand? t = some (code, text, outcome) ↔
      ∃ rest, agentMark? t = some (code, rest) ∧ commandAtArrow? rest = some (text, outcome) :=
  bind_agentMark?_eq_some_iff

lemma plainCommand?_eq_some_iff {t text : Text} {code : Char} :
    plainCommand? t = some (code, text) ↔
      ∃ rest, agentMark? t = some (code, rest) ∧ part? rest = some text :=
  bind_agentMark?_eq_some_iff

lemma judgedCommand?_marked {code c : Char} (hcode : isCapital code = true) (hc : isBlank c = true) {r : Text}
    (hr : '\n' ∉ r) :
    judgedCommand? (code :: '>' :: c :: r) = (splitAtArrow? r).map fun p => (code, p.1.dropBlank, p.2) := by
  have hmark : agentMark? (code :: '>' :: c :: r) = some (code, c :: r) :=
    agentMark?_eq_some_iff.mpr ⟨c, r, rfl, hcode, hc, rfl⟩
  rw [judgedCommand?, hmark, Option.bind_some, commandAtArrow?_cons hr c hc, Option.map_map]
  rfl

lemma plainCommand?_marked {code c : Char} (hcode : isCapital code = true) (hc : isBlank c = true) {r : Text}
    (hr : '\n' ∉ r) : plainCommand? (code :: '>' :: c :: r) = some (code, r.dropBlank) := by
  have hmark : agentMark? (code :: '>' :: c :: r) = some (code, c :: r) :=
    agentMark?_eq_some_iff.mpr ⟨c, r, rfl, hcode, hc, rfl⟩
  rw [plainCommand?_eq_some_iff]
  exact ⟨c :: r, hmark, part?_eq_some_iff.mpr (by rw [dropBlank_cons hc]; exact ⟨mt mem_of_mem_dropBlank hr, rfl⟩)⟩

lemma modelPath?_eq_some_iff {t path : Text} :
    modelPath? t = some path ↔
      ∃ (c : Char) (r : Text), t = "OPEN>".toList ++ c :: r ∧ isBlank c = true ∧ part? r = some path := by
  constructor
  · intro h
    unfold modelPath? at h
    split at h
    next c r =>
      by_cases hc : isBlank c = true
      · rw [if_pos hc] at h
        exact ⟨c, r, rfl, hc, h⟩
      · simp [hc] at h
    next => cases h
  · rintro ⟨c, r, rfl, hc, hr⟩
    simp [modelPath?, hc, hr]

theorem reads_of_read_eq_ok {line : Text} {statement : Statement} (h : Statement.read line = .ok statement) :
    Reads line statement := by
  by_cases hd : StartsDefinition line
  · rw [read_of_startsDefinition hd] at h
    injection h with h
    exact h ▸ .definition hd
  · cases hc : judgedCommand? line.trim with
    | some p =>
      obtain ⟨code, text, outcome⟩ := p
      rw [read_of_judgedCommand hd hc] at h
      cases ha : Agent.read [code] with
      | error cause => rw [ha] at h; cases h
      | ok agent =>
        cases he : CommandOutcome.read outcome with
        | error cause => rw [ha, he] at h; cases h
        | ok expected =>
          rw [ha, he] at h
          cases h
          exact .judgedCommand hd (eq_code_of_agent_read ha ▸ hc) he
    | none =>
      rw [read_of_not_judgedCommand hd hc] at h
      cases hs : splitAtArrow? line.trim with
      | some p =>
        rw [hs] at h
        cases h
        exact .expression hd hc hs
      | none =>
        rw [hs] at h
        cases hp : plainCommand? line.trim with
        | some p =>
          obtain ⟨code, text⟩ := p
          simp only [readPlain_of_plainCommand hp] at h
          cases ha : Agent.read [code] with
          | error cause => rw [ha] at h; cases h
          | ok agent =>
            rw [ha] at h
            cases h
            exact .plainCommand hd hc hs (eq_code_of_agent_read ha ▸ hp)
        | none =>
          simp only [readPlain_of_not_plainCommand hp] at h
          cases hm : modelPath? line.trim with
          | some path =>
            rw [hm] at h
            cases h
            exact .openModel hd hc hs hp hm
          | none => rw [hm] at h; cases h

theorem read_eq_ok_of_reads {line : Text} {statement : Statement} (h : Reads line statement) :
    Statement.read line = .ok statement := by
  cases h with
  | definition hd => exact read_of_startsDefinition hd
  | judgedCommand hd hc he =>
    rw [read_of_judgedCommand hd hc, agent_read_code, he]
    rfl
  | expression hd hc hs => rw [read_of_not_judgedCommand hd hc, hs]
  | plainCommand hd hc hs hp =>
    simp only [read_of_not_judgedCommand hd hc, hs, readPlain_of_plainCommand hp, agent_read_code]
    rfl
  | openModel hd hc hs hp hm =>
    simp only [read_of_not_judgedCommand hd hc, hs, readPlain_of_not_plainCommand hp, hm]

/-- Reading finds a statement exactly if one of the rules gives it. -/
theorem read_eq_ok_iff {line : Text} {statement : Statement} :
    Statement.read line = .ok statement ↔ Reads line statement :=
  ⟨reads_of_read_eq_ok, read_eq_ok_of_reads⟩

lemma Reads.of_expression {line text : Text} {expected : ExpressionOutcome}
    (h : Reads line (.expression text expected)) :
    ¬ StartsDefinition line ∧ judgedCommand? line.trim = none ∧
      ∃ outcome, splitAtArrow? line.trim = some (text, outcome) ∧ ExpressionOutcome.read outcome = expected := by
  cases h with
  | expression hd hc hs => exact ⟨hd, hc, _, hs, rfl⟩

end SuiteRunner.Proofs
