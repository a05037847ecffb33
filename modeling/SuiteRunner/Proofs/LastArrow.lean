import SuiteRunner.Statement.Reader
import SuiteRunner.Proofs.Flush

/-!
# The last arrow of a line

A line is cut at an arrow by a search that tries the longest first part before any shorter one. On a text without a
line feed this is the cut at the last arrow, and there is none exactly if the text has no arrow.
-/

namespace SuiteRunner.Proofs

/-- Two characters of an arrow and the blank behind them. -/
def StartsAtHead (t : Text) : Prop :=
  ∃ (w : Char) (rest : Text), t = '=' :: '>' :: w :: rest ∧ isBlank w = true

/-- A blank, `=>` and a blank follow one another somewhere in the text. -/
def HasArrow (t : Text) : Prop :=
  ∃ (before : Text) (v w : Char) (after : Text),
    t = before ++ v :: '=' :: '>' :: w :: after ∧ isBlank v = true ∧ isBlank w = true

/-- Put behind a space, the text has no arrow. -/
def IsArrowFree (t : Text) : Prop :=
  ¬ HasArrow (' ' :: t)

/-- The text is cut at its last arrow; the blanks behind the arrow belong to neither part. -/
def IsLastArrow (t before after : Text) : Prop :=
  ∃ (v w : Char) (rest : Text), t = before ++ v :: '=' :: '>' :: w :: rest ∧ isBlank v = true ∧ isBlank w = true ∧
    ¬ HasArrow (w :: rest) ∧ after = rest.dropBlank

lemma hasArrow_cons {c : Char} {t : Text} :
    HasArrow (c :: t) ↔ (isBlank c = true ∧ StartsAtHead t) ∨ HasArrow t := by
  constructor
  · rintro ⟨before, v, w, after, ht, hv, hw⟩
    cases before with
    | nil =>
      obtain ⟨rfl, rfl⟩ := List.cons_eq_cons.mp ht
      exact .inl ⟨hv, w, after, rfl, hw⟩
    | cons d before =>
      obtain ⟨rfl, rfl⟩ := List.cons_eq_cons.mp ht
      exact .inr ⟨before, v, w, after, rfl, hv, hw⟩
  · rintro (⟨hc, w, after, rfl, hw⟩ | ⟨before, v, w, after, rfl, hv, hw⟩)
    · exact ⟨[], c, w, after, rfl, hc, hw⟩
    · exact ⟨c :: before, v, w, after, rfl, hv, hw⟩

lemma not_hasArrow_nil : ¬ HasArrow [] := by
  rintro ⟨before, v, w, after, ht, -⟩
  simp at ht

lemma hasArrow_cons_of_not_blank {c : Char} (hc : isBlank c = false) {t : Text} :
    HasArrow (c :: t) ↔ HasArrow t := by
  simp [hasArrow_cons, hc]

lemma HasArrow.append {b : Text} (h : HasArrow b) (a : Text) : HasArrow (a ++ b) := by
  obtain ⟨before, v, w, after, rfl, hv, hw⟩ := h
  exact ⟨a ++ before, v, w, after, by rw [List.append_assoc], hv, hw⟩

lemma hasArrow_blanks_append {a t : Text} (hne : a ≠ []) (ha : ∀ c ∈ a, isBlank c = true) (h : StartsAtHead t) :
    HasArrow (a ++ t) := by
  obtain ⟨a, v, rfl⟩ := List.eq_nil_or_concat a |>.resolve_left hne
  have hv : isBlank v = true := ha v (by simp)
  have hlast : HasArrow (v :: t) := hasArrow_cons.mpr (.inl ⟨hv, h⟩)
  have hsplit : a.concat v ++ t = a ++ v :: t := by simp
  rw [hsplit]
  exact hlast.append a

lemma hasArrow_head {t : Text} : HasArrow ('=' :: '>' :: t) ↔ HasArrow t := by
  rw [hasArrow_cons_of_not_blank (by decide), hasArrow_cons_of_not_blank (by decide)]

lemma hasArrow_append_space {a : Text} (ha : '=' ∉ a) (b : Text) :
    HasArrow (a ++ ' ' :: b) ↔ HasArrow (' ' :: b) := by
  induction a with
  | nil => rfl
  | cons c a ih =>
    have htail : '=' ∉ a := fun hm => ha (List.mem_cons_of_mem c hm)
    rw [List.cons_append, hasArrow_cons, ih htail, or_iff_right]
    rintro ⟨-, w, rest, hhead, -⟩
    cases a with
    | nil => exact absurd (List.cons_eq_cons.mp hhead).1 (by decide)
    | cons d a =>
      have hd : d = '=' := (List.cons_eq_cons.mp hhead).1
      exact htail (hd ▸ List.mem_cons_self)

lemma part?_eq_some_iff {t p : Text} : part? t = some p ↔ '\n' ∉ t.dropBlank ∧ p = t.dropBlank := by
  rw [part?]
  by_cases h : '\n' ∈ t.dropBlank
  · simp [h]
  · simp [h, eq_comm]

lemma part?_of_newline_notMem {t : Text} (h : '\n' ∉ t) : part? t = some t.dropBlank :=
  part?_eq_some_iff.mpr ⟨fun hm => h (mem_of_mem_dropBlank hm), rfl⟩

lemma afterArrow?_head {w : Char} (hw : isBlank w = true) (rest : Text) :
    afterArrow? ('=' :: '>' :: w :: rest) = part? rest := by
  rw [afterArrow?, if_pos hw]

lemma afterArrow?_eq_some {t o : Text} (h : afterArrow? t = some o) : StartsAtHead t ∧ '\n' ∉ o := by
  unfold afterArrow? at h
  split at h
  next w rest =>
    by_cases hw : isBlank w = true
    · rw [if_pos hw, part?_eq_some_iff] at h
      exact ⟨⟨w, rest, rfl, hw⟩, h.2 ▸ h.1⟩
    · simp [hw] at h
  next => simp at h

lemma afterBlankArrow?_blanks {a : Text} (hne : a ≠ []) (ha : ∀ c ∈ a, isBlank c = true) {w : Char}
    (hw : isBlank w = true) (rest : Text) :
    afterBlankArrow? (a ++ '=' :: '>' :: w :: rest) = part? rest := by
  cases a with
  | nil => exact absurd rfl hne
  | cons c a =>
    have htail : ∀ d ∈ a, isBlank d = true := fun d hd => ha d (List.mem_cons_of_mem c hd)
    rw [List.cons_append, afterBlankArrow?, if_pos (ha c List.mem_cons_self), dropBlank_append htail,
      dropBlank_eq_self (isFlushLeft_cons.mpr (by decide)), afterArrow?_head hw]

lemma afterBlankArrow?_eq_some {t o : Text} (h : afterBlankArrow? t = some o) : HasArrow t ∧ '\n' ∉ o := by
  cases t with
  | nil => simp [afterBlankArrow?] at h
  | cons c rest =>
    rw [afterBlankArrow?] at h
    by_cases hc : isBlank c = true
    · rw [if_pos hc] at h
      obtain ⟨hhead, ho⟩ := afterArrow?_eq_some h
      obtain ⟨a, ha, hsplit⟩ := exists_blanks_dropBlank rest
      have hblanks : ∀ d ∈ c :: a, isBlank d = true := by simpa using ⟨hc, ha⟩
      have harrow := hasArrow_blanks_append (List.cons_ne_nil c a) hblanks hhead
      rw [List.cons_append, ← hsplit] at harrow
      exact ⟨harrow, ho⟩
    · simp [hc] at h

lemma splitAtArrow?_cons {c : Char} (hc : c ≠ '\n') (t : Text) :
    splitAtArrow? (c :: t) = ((splitAtArrow? t).map fun p => (c :: p.1, p.2)).or
      ((afterBlankArrow? (c :: t)).map fun o => ([], o)) := by
  rw [splitAtArrow?, if_neg hc]

lemma splitAtArrow?_newline (t : Text) :
    splitAtArrow? ('\n' :: t) = (afterBlankArrow? ('\n' :: t)).map fun o => ([], o) := by
  rw [splitAtArrow?, if_pos rfl]

lemma splitAtArrow?_eq_some {t a o : Text} (h : splitAtArrow? t = some (a, o)) :
    HasArrow t ∧ '\n' ∉ a ∧ '\n' ∉ o := by
  induction t generalizing a with
  | nil => simp [splitAtArrow?] at h
  | cons c t ih =>
    by_cases hc : c = '\n'
    · subst hc
      rw [splitAtArrow?_newline, Option.map_eq_some_iff] at h
      obtain ⟨o', ho, heq⟩ := h
      obtain ⟨rfl, rfl⟩ := Prod.ext_iff.mp heq
      exact ⟨(afterBlankArrow?_eq_some ho).1, List.not_mem_nil, (afterBlankArrow?_eq_some ho).2⟩
    · rw [splitAtArrow?_cons hc, Option.or_eq_some_iff, Option.map_eq_some_iff, Option.map_eq_some_iff] at h
      rcases h with ⟨⟨a', o'⟩, hs, heq⟩ | ⟨-, o', ho, heq⟩
      · obtain ⟨rfl, rfl⟩ := Prod.ext_iff.mp heq
        obtain ⟨harrow, ha, ho⟩ := ih hs
        exact ⟨harrow.append [c], by simp [ha, Ne.symm hc], ho⟩
      · obtain ⟨rfl, rfl⟩ := Prod.ext_iff.mp heq
        exact ⟨(afterBlankArrow?_eq_some ho).1, List.not_mem_nil, (afterBlankArrow?_eq_some ho).2⟩

lemma splitAtArrow?_eq_none {t : Text} (h : ¬ HasArrow t) : splitAtArrow? t = none := by
  cases hs : splitAtArrow? t with
  | none => rfl
  | some p => exact absurd (splitAtArrow?_eq_some hs).1 h

lemma splitAtArrow?_append {a : Text} (ha : '\n' ∉ a) {t x o : Text} (h : splitAtArrow? t = some (x, o)) :
    splitAtArrow? (a ++ t) = some (a ++ x, o) := by
  induction a with
  | nil => exact h
  | cons c a ih =>
    have hc : c ≠ '\n' := fun he => ha (by simp [he])
    have htail : '\n' ∉ a := fun hm => ha (List.mem_cons_of_mem c hm)
    rw [List.cons_append, splitAtArrow?_cons hc, ih htail]
    rfl

lemma splitAtArrow?_start {v w : Char} (hv : isBlank v = true) (hw : isBlank w = true) {rest : Text}
    (hrest : '\n' ∉ rest) (hlast : ¬ HasArrow (w :: rest)) :
    splitAtArrow? (v :: '=' :: '>' :: w :: rest) = some ([], rest.dropBlank) := by
  have hhere : afterBlankArrow? (v :: '=' :: '>' :: w :: rest) = some rest.dropBlank := by
    rw [← part?_of_newline_notMem hrest]
    exact afterBlankArrow?_blanks (a := [v]) (by simp) (by simpa using hv) hw rest
  by_cases hn : v = '\n'
  · subst hn
    rw [splitAtArrow?_newline, hhere]
    rfl
  · rw [splitAtArrow?_cons hn, hhere, splitAtArrow?_eq_none (mt hasArrow_head.mp hlast)]
    rfl

/-- Beyond the last arrow nothing is found, and nothing in front of it is preferred. -/
theorem splitAtArrow?_of_isLastArrow {t a o : Text} (ht : '\n' ∉ t) (h : IsLastArrow t a o) :
    splitAtArrow? t = some (a, o) := by
  obtain ⟨v, w, rest, rfl, hv, hw, hlast, rfl⟩ := h
  have ha : '\n' ∉ a := fun hm => ht (List.mem_append_left _ hm)
  have hrest : '\n' ∉ rest := fun hm => ht (by simp [hm])
  have hcut := splitAtArrow?_append ha (splitAtArrow?_start hv hw hrest hlast)
  rwa [List.append_nil] at hcut

lemma exists_isLastArrow {t : Text} (h : HasArrow t) : ∃ a o, IsLastArrow t a o := by
  induction t with
  | nil => exact absurd h not_hasArrow_nil
  | cons c t ih =>
    by_cases hlater : HasArrow t
    · obtain ⟨a, o, v, w, rest, rfl, hv, hw, hlast, ho⟩ := ih hlater
      exact ⟨c :: a, o, v, w, rest, rfl, hv, hw, hlast, ho⟩
    · obtain ⟨hc, w, rest, rfl, hw⟩ := (hasArrow_cons.mp h).resolve_right hlater
      exact ⟨[], Text.dropBlank rest, c, w, rest, rfl, hc, hw, mt hasArrow_head.mpr hlater, rfl⟩

lemma IsLastArrow.flushLeft {t a o : Text} (h : IsLastArrow t a o) (ht : IsFlushLeft t) :
    a ≠ [] ∧ IsFlushLeft a := by
  obtain ⟨v, w, rest, rfl, hv, -⟩ := h
  by_cases ha : a = []
  · subst ha
    rw [List.nil_append, isFlushLeft_cons, hv] at ht
    cases ht
  · exact ⟨ha, (isFlushLeft_append ha).mp ht⟩

theorem splitAtArrow?_eq_some_iff {t a o : Text} (ht : '\n' ∉ t) :
    splitAtArrow? t = some (a, o) ↔ IsLastArrow t a o := by
  constructor
  · intro h
    obtain ⟨a', o', hlast⟩ := exists_isLastArrow (splitAtArrow?_eq_some h).1
    rw [splitAtArrow?_of_isLastArrow ht hlast, Option.some.injEq] at h
    obtain ⟨rfl, rfl⟩ := Prod.ext_iff.mp h
    exact hlast
  · exact splitAtArrow?_of_isLastArrow ht

theorem splitAtArrow?_eq_none_iff {t : Text} (ht : '\n' ∉ t) : splitAtArrow? t = none ↔ ¬ HasArrow t := by
  constructor
  · intro h harrow
    obtain ⟨a, o, hlast⟩ := exists_isLastArrow harrow
    rw [splitAtArrow?_of_isLastArrow ht hlast] at h
    exact absurd h (by simp)
  · exact splitAtArrow?_eq_none

/-- What stands behind the first blank of a command line is cut at its last arrow, too. The arrow may take up all
that is there, and then the command is empty. -/
theorem commandAtArrow?_cons {r : Text} (hr : '\n' ∉ r) (c : Char) (hc : isBlank c = true) :
    commandAtArrow? (c :: r) = (splitAtArrow? r).map fun p => (p.1.dropBlank, p.2) := by
  rw [commandAtArrow?, dropBlank_cons hc, List.drop_one, List.tail_cons]
  cases hs : splitAtArrow? r with
  | none =>
    have hno : ¬ HasArrow r := (splitAtArrow?_eq_none_iff hr).mp hs
    obtain ⟨a, -, hsplit⟩ := exists_blanks_dropBlank r
    have hdrop : ¬ HasArrow r.dropBlank := fun h => hno (hsplit ▸ h.append a)
    have hblank : afterBlankArrow? r = none := by
      cases hb : afterBlankArrow? r with
      | none => rfl
      | some o => exact absurd (afterBlankArrow?_eq_some hb).1 hno
    rw [splitAtArrow?_eq_none hdrop, hblank]
    rfl
  | some p =>
    obtain ⟨a, o⟩ := p
    obtain ⟨v, w, rest, rfl, hv, hw, hlast, rfl⟩ := (splitAtArrow?_eq_some_iff hr).mp hs
    have hrest : '\n' ∉ rest := fun hm => hr (by simp [hm])
    by_cases ha : ∀ d ∈ a, isBlank d = true
    · have hblanks : ∀ d ∈ a ++ [v], isBlank d = true := by simpa [or_imp, forall_and] using ⟨ha, hv⟩
      have hstart : a ++ v :: '=' :: '>' :: w :: rest = (a ++ [v]) ++ '=' :: '>' :: w :: rest := by simp
      have hhead : Text.dropBlank (a ++ v :: '=' :: '>' :: w :: rest) = '=' :: '>' :: w :: rest := by
        rw [hstart, dropBlank_append hblanks, dropBlank_eq_self (isFlushLeft_cons.mpr (by decide))]
      rw [hhead, splitAtArrow?_eq_none (mt hasArrow_head.mp hlast), hstart,
        afterBlankArrow?_blanks (by simp) hblanks hw, part?_of_newline_notMem hrest, Option.map_some,
        Option.map_some, dropBlank_eq_nil_iff.mpr ha]
      rfl
    · have hdrop := dropBlank_append_of_ne_nil (mt dropBlank_eq_nil_iff.mp ha) (v :: '=' :: '>' :: w :: rest)
      have hnew : '\n' ∉ Text.dropBlank a ++ v :: '=' :: '>' :: w :: rest :=
        fun hm => hr (mem_of_mem_dropBlank (hdrop ▸ hm))
      rw [hdrop, splitAtArrow?_of_isLastArrow hnew ⟨v, w, rest, rfl, hv, hw, hlast, rfl⟩]
      rfl

lemma commandAtArrow?_eq_some {t a o : Text} (h : commandAtArrow? t = some (a, o)) : '\n' ∉ a ∧ '\n' ∉ o := by
  rw [commandAtArrow?, Option.or_eq_some_iff, Option.map_eq_some_iff] at h
  rcases h with h | ⟨-, o', ho, heq⟩
  · exact (splitAtArrow?_eq_some h).2
  · obtain ⟨rfl, rfl⟩ := Prod.ext_iff.mp heq
    exact ⟨List.not_mem_nil, (afterBlankArrow?_eq_some ho).2⟩

/-- The arrow and an outcome as they stand at the end of a trimmed line. -/
def trimmedArrow (out : Text) : Text :=
  ' ' :: '=' :: '>' :: Text.dropBlankEnd (' ' :: out)

lemma dropBlankEnd_append_arrow (x out : Text) :
    Text.dropBlankEnd (x ++ (arrow ++ out)) = x ++ trimmedArrow out := by
  have hsplit : x ++ (arrow ++ out) = (x ++ [' ', '=']) ++ '>' :: ' ' :: out := by simp [arrow]
  rw [hsplit, dropBlankEnd_append_cons (by decide), trimmedArrow]
  simp

lemma newline_notMem_trimmedArrow {out : Text} (h : '\n' ∉ out) : '\n' ∉ trimmedArrow out := by
  have hend : '\n' ∉ Text.dropBlankEnd (' ' :: out) := by
    intro hm
    simpa [h] using mem_of_mem_dropBlankEnd hm
  simp [trimmedArrow, hend]

lemma dropBlankEnd_space_eq_nil {t : Text} (h : t.dropBlankEnd = []) : Text.dropBlankEnd (' ' :: t) = [] := by
  obtain ⟨b, hb, ht⟩ := exists_blanks_dropBlankEnd t
  rw [h, List.nil_append] at ht
  apply dropBlankEnd_eq_nil
  rw [ht]
  simpa using ⟨by decide, hb⟩

/-- A text written in front of an arrow and an outcome comes back from the cut exactly if the outcome is not blank
and brings no arrow of its own. -/
theorem splitAtArrow?_trimmedArrow_iff {x out o : Text} (hx : '\n' ∉ x) (hout : '\n' ∉ out) :
    splitAtArrow? (x ++ trimmedArrow out) = some (x, o) ↔
      out.dropBlankEnd ≠ [] ∧ IsArrowFree out.dropBlankEnd ∧ o = out.dropBlankEnd.dropBlank := by
  have hnew : '\n' ∉ x ++ trimmedArrow out := by simp [hx, newline_notMem_trimmedArrow hout]
  rw [splitAtArrow?_eq_some_iff hnew]
  constructor
  · rintro ⟨v, w, rest, ht, -, -, hlast, ho⟩
    have htail : Text.dropBlankEnd (' ' :: out) = w :: rest := by
      have hboth := List.append_cancel_left ht
      simp only [trimmedArrow, List.cons.injEq, true_and] at hboth
      exact hboth.2
    have hne : out.dropBlankEnd ≠ [] := by
      intro hnil
      rw [dropBlankEnd_space_eq_nil hnil] at htail
      cases htail
    rw [dropBlankEnd_cons hne] at htail
    obtain ⟨rfl, rfl⟩ := List.cons_eq_cons.mp htail
    exact ⟨hne, hlast, ho⟩
  · rintro ⟨hne, hfree, ho⟩
    rw [trimmedArrow, dropBlankEnd_cons hne]
    exact ⟨' ', ' ', out.dropBlankEnd, rfl, by decide, by decide, hfree, ho⟩

/-- A cut that agrees with the written text up to blanks at its start agrees with it altogether, since a longer
first part would have to start inside the arrow. -/
lemma eq_of_isLastArrow_trimmedArrow {text a o out : Text} (h : IsLastArrow (text ++ trimmedArrow out) a o)
    (ha : a.dropBlank = text) : a = text := by
  obtain ⟨v, w, rest, ht, hv, -⟩ := h
  obtain ⟨s, hs, hsplit⟩ := exists_blanks_dropBlank a
  rw [ha] at hsplit
  cases s with
  | nil => exact hsplit
  | cons b s =>
    have hb : isBlank b = true := hs b List.mem_cons_self
    have hflush : IsFlushLeft text := ha ▸ isFlushLeft_dropBlank a
    cases text with
    | cons c text =>
      rw [hsplit] at ht
      have hc : c = b := (List.cons_eq_cons.mp ht).1
      rw [isFlushLeft_cons, hc, hb] at hflush
      cases hflush
    | nil =>
      rw [hsplit, List.append_nil] at ht
      cases s with
      | nil =>
        have he : '=' = v := (List.cons_eq_cons.mp (List.cons_eq_cons.mp ht).2).1
        exact absurd (he ▸ hv) (by decide)
      | cons d s =>
        have he : '=' = d := (List.cons_eq_cons.mp (List.cons_eq_cons.mp ht).2).1
        exact absurd (he ▸ hs d (by simp)) (by decide)

end SuiteRunner.Proofs
