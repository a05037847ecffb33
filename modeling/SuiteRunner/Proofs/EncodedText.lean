import Mathlib.Data.List.Basic
import Mathlib.Tactic.Common
import SuiteRunner.Proofs.Fallible
import SuiteRunner.Text.Utf8

/-!
# Text and its octets

Decoding gives a text exactly for the octets that encode it. Octets that are decoded in pieces give the same text:
what one piece leaves unfinished is finished in the next.
-/

namespace SuiteRunner.Proofs
open Utf8

/-- The octets of the text in UTF-8. -/
def encoded (t : Text) : List UInt8 :=
  t.flatMap String.utf8EncodeChar

/-- The octets finish the character. -/
inductive Finishes : Unfinished → List UInt8 → Char → Prop
  | last {pending : Unfinished} {o : UInt8} (missing : pending.missing = 1)
      (bounds : pending.low ≤ o ∧ o ≤ pending.high) :
      Finishes pending [o] (Char.ofNat (pending.bits * 64 + (o.toNat - 0x80)))
  | more {pending : Unfinished} {o : UInt8} {rest : List UInt8} {c : Char} (missing : pending.missing ≠ 1)
      (bounds : pending.low ≤ o ∧ o ≤ pending.high)
      (finishes : Finishes ⟨pending.start, pending.octet, pending.bits * 64 + (o.toNat - 0x80),
        pending.missing - 1, 0x80, 0xBF⟩ rest c) : Finishes pending (o :: rest) c

section Machine

lemma Finishes.decodeFrom {pending : Unfinished} {os : List UInt8} {c : Char} (h : Finishes pending os c)
    (position : Nat) (rest : List UInt8) :
    decodeFrom position (some pending) (os ++ rest) = (c :: ·) <$> decodeFrom (position + os.length) none rest := by
  induction h generalizing position with
  | last missing bounds =>
    rw [List.singleton_append, Utf8.decodeFrom, if_pos bounds]
    simp only [missing, if_true, List.length_singleton]
  | more missing bounds _ ih =>
    rw [List.cons_append, Utf8.decodeFrom, if_pos bounds]
    simp only [missing, if_false]
    rw [ih, List.length_cons, Nat.add_right_comm, Nat.add_assoc]

lemma Finishes.decodeFrom_prefix {pending : Unfinished} {os : List UInt8} {c : Char} (h : Finishes pending os c)
    (position : Nat) {front : List UInt8} (hfront : front <+: os) (hne : front ≠ os) :
    ∃ last, Utf8.decodeFrom position (some pending) front =
      .error ⟨.endOfData, pending.octet, pending.start, last⟩ := by
  induction h generalizing position front with
  | last =>
    rcases List.prefix_cons_iff.mp hfront with rfl | ⟨front, rfl, hrest⟩
    · exact ⟨_, rfl⟩
    · rw [List.prefix_nil.mp hrest] at hne
      exact absurd rfl hne
  | more missing bounds _ ih =>
    rcases List.prefix_cons_iff.mp hfront with rfl | ⟨front, rfl, hrest⟩
    · exact ⟨_, rfl⟩
    · rw [Utf8.decodeFrom, if_pos bounds]
      simp only [missing, if_false]
      exact ih (position + 1) hrest fun heq => hne (congrArg _ heq)

lemma exists_finishes {pending : Unfinished} {position : Nat} {os : List UInt8} {t : Text}
    (h : Utf8.decodeFrom position (some pending) os = .ok t) :
    ∃ front c rest t', Finishes pending front c ∧ os = front ++ rest ∧ t = c :: t' ∧
      Utf8.decodeFrom (position + front.length) none rest = .ok t' := by
  induction os generalizing position pending with
  | nil => simp [Utf8.decodeFrom] at h
  | cons o os ih =>
    rw [Utf8.decodeFrom] at h
    split_ifs at h with bounds missing
    · obtain ⟨t', hrest, rfl⟩ := map_eq_ok_iff.mp h
      exact ⟨[o], _, os, t', .last missing bounds, rfl, rfl, hrest⟩
    · obtain ⟨front, c, rest, t', hfinishes, rfl, rfl, hrest⟩ := ih h
      refine ⟨o :: front, c, rest, t', .more missing bounds hfinishes, rfl, rfl, ?_⟩
      rwa [List.length_cons, ← Nat.add_assoc, Nat.add_right_comm]

end Machine

section Characters

variable {o : UInt8} (position : Nat)

lemma lead?_two (h : 0xC2 ≤ o.toNat) (h' : o.toNat < 0xE0) :
    lead? position o = some ⟨position, o, o.toNat - 0xC0, 1, 0x80, 0xBF⟩ := by
  have h₁ : ¬ o < 0xC2 := by rw [UInt8.lt_iff_toNat_lt]; exact Nat.not_lt.mpr h
  have h₂ : o < 0xE0 := UInt8.lt_iff_toNat_lt.mpr h'
  rw [lead?, if_neg h₁, if_pos h₂]

lemma lead?_three (h : 0xE0 ≤ o.toNat) (h' : o.toNat < 0xF0) :
    lead? position o = some ⟨position, o, o.toNat - 0xE0, 2, if o = 0xE0 then 0xA0 else 0x80,
      if o = 0xED then 0x9F else 0xBF⟩ := by
  have h₁ : ¬ o < 0xC2 := by rw [UInt8.lt_iff_toNat_lt]; simp; omega
  have h₂ : ¬ o < 0xE0 := by rw [UInt8.lt_iff_toNat_lt]; exact Nat.not_lt.mpr h
  have h₃ : o < 0xF0 := UInt8.lt_iff_toNat_lt.mpr h'
  rw [lead?, if_neg h₁, if_neg h₂, if_pos h₃]

lemma lead?_four (h : 0xF0 ≤ o.toNat) (h' : o.toNat < 0xF5) :
    lead? position o = some ⟨position, o, o.toNat - 0xF0, 3, if o = 0xF0 then 0x90 else 0x80,
      if o = 0xF4 then 0x8F else 0xBF⟩ := by
  have h₁ : ¬ o < 0xC2 := by rw [UInt8.lt_iff_toNat_lt]; simp; omega
  have h₂ : ¬ o < 0xE0 := by rw [UInt8.lt_iff_toNat_lt]; simp; omega
  have h₃ : ¬ o < 0xF0 := by rw [UInt8.lt_iff_toNat_lt]; exact Nat.not_lt.mpr h
  have h₄ : o < 0xF5 := UInt8.lt_iff_toNat_lt.mpr h'
  rw [lead?, if_neg h₁, if_neg h₂, if_neg h₃, if_pos h₄]

lemma lead?_cases {pending : Unfinished} (h : lead? position o = some pending) :
    (0xC2 ≤ o.toNat ∧ o.toNat < 0xE0) ∨ (0xE0 ≤ o.toNat ∧ o.toNat < 0xF0) ∨ 0xF0 ≤ o.toNat ∧ o.toNat < 0xF5 := by
  unfold lead? at h
  simp only [UInt8.lt_iff_toNat_lt] at h
  split_ifs at h with h₁ h₂ h₃ h₄ <;> simp at h₁ <;> simp at * <;> omega

lemma lead?_start {position : Nat} {pending : Unfinished} (h : lead? position o = some pending) :
    pending.start = position := by
  unfold lead? at h
  split_ifs at h <;> cases h <;> rfl

lemma bounds_iff {low high : UInt8} : low ≤ o ∧ o ≤ high ↔ low.toNat ≤ o.toNat ∧ o.toNat ≤ high.toNat := by
  rw [UInt8.le_iff_toNat_le, UInt8.le_iff_toNat_le]

lemma finishes_one_iff {start bits : Nat} {octet low high : UInt8} {os : List UInt8} {c : Char} :
    Finishes ⟨start, octet, bits, 1, low, high⟩ os c ↔
      ∃ p : UInt8, os = [p] ∧ (low.toNat ≤ p.toNat ∧ p.toNat ≤ high.toNat) ∧
        c = Char.ofNat (bits * 64 + (p.toNat - 0x80)) := by
  constructor
  · intro h
    cases h with
    | last _ bounds => exact ⟨_, rfl, bounds_iff.mp bounds, rfl⟩
    | more missing => exact absurd rfl missing
  · rintro ⟨p, hos, bounds, hc⟩
    rw [hos, hc]
    exact .last rfl (bounds_iff.mpr bounds)

lemma finishes_more_iff {start bits missing : Nat} {octet low high : UInt8} {os : List UInt8} {c : Char} :
    Finishes ⟨start, octet, bits, missing + 2, low, high⟩ os c ↔
      ∃ p rest, os = p :: rest ∧ (low.toNat ≤ p.toNat ∧ p.toNat ≤ high.toNat) ∧
        Finishes ⟨start, octet, bits * 64 + (p.toNat - 0x80), missing + 1, 0x80, 0xBF⟩ rest c := by
  constructor
  · intro h
    cases h with
    | last missing => simp at missing
    | more _ bounds finishes => exact ⟨_, _, rfl, bounds_iff.mp bounds, finishes⟩
  · rintro ⟨p, rest, rfl, bounds, finishes⟩
    exact .more (by simp) (bounds_iff.mpr bounds) finishes

lemma octet_eq {n : Nat} (h : n = o.toNat) : UInt8.ofNat n = o := by
  rw [h, UInt8.ofNat_toNat]

lemma val_ofNat {n : Nat} (h : n < 0xD800 ∨ 0xDFFF < n ∧ n < 0x110000) : (Char.ofNat n).val.toNat = n := by
  rw [Char.ofNat, dif_pos h]
  rfl

lemma encode_one (ho : o.toNat < 0x80) : String.utf8EncodeChar (Char.ofNat o.toNat) = [o] := by
  unfold String.utf8EncodeChar
  simp only [val_ofNat (.inl (by omega : o.toNat < 0xD800))]
  rw [if_pos (by omega), octet_eq rfl]

lemma encode_two {p : UInt8} (ho : 0xC2 ≤ o.toNat ∧ o.toNat < 0xE0) (hp : 0x80 ≤ p.toNat ∧ p.toNat ≤ 0xBF) :
    String.utf8EncodeChar (Char.ofNat ((o.toNat - 0xC0) * 64 + (p.toNat - 0x80))) = [o, p] := by
  unfold String.utf8EncodeChar
  simp only [val_ofNat (.inl (by omega : (o.toNat - 0xC0) * 64 + (p.toNat - 0x80) < 0xD800))]
  rw [if_neg (by omega), if_pos (by omega), octet_eq (o := o) (by omega), octet_eq (o := p) (by omega)]

lemma encode_three {p q : UInt8} (ho : 0xE0 ≤ o.toNat ∧ o.toNat < 0xF0)
    (hp : (if o.toNat = 0xE0 then 0xA0 else 0x80) ≤ p.toNat ∧ p.toNat ≤ if o.toNat = 0xED then 0x9F else 0xBF)
    (hq : 0x80 ≤ q.toNat ∧ q.toNat ≤ 0xBF) :
    String.utf8EncodeChar (Char.ofNat (((o.toNat - 0xE0) * 64 + (p.toNat - 0x80)) * 64 + (q.toNat - 0x80))) =
      [o, p, q] := by
  generalize hn : ((o.toNat - 0xE0) * 64 + (p.toNat - 0x80)) * 64 + (q.toNat - 0x80) = n
  have hbounds : 0x80 ≤ p.toNat ∧ p.toNat ≤ 0xBF := by split_ifs at hp <;> omega
  have hlow : 0x7FF < n := by split_ifs at hp <;> omega
  have hvalid : n < 0xD800 ∨ 0xDFFF < n ∧ n < 0x110000 := by split_ifs at hp <;> omega
  unfold String.utf8EncodeChar
  simp only [val_ofNat hvalid]
  rw [if_neg (by omega), if_neg (by omega), if_pos (by omega), octet_eq (o := o) (by omega),
    octet_eq (o := p) (by omega), octet_eq (o := q) (by omega)]

lemma encode_four {p q r : UInt8} (ho : 0xF0 ≤ o.toNat ∧ o.toNat < 0xF5)
    (hp : (if o.toNat = 0xF0 then 0x90 else 0x80) ≤ p.toNat ∧ p.toNat ≤ if o.toNat = 0xF4 then 0x8F else 0xBF)
    (hq : 0x80 ≤ q.toNat ∧ q.toNat ≤ 0xBF) (hr : 0x80 ≤ r.toNat ∧ r.toNat ≤ 0xBF) :
    String.utf8EncodeChar (Char.ofNat
      ((((o.toNat - 0xF0) * 64 + (p.toNat - 0x80)) * 64 + (q.toNat - 0x80)) * 64 + (r.toNat - 0x80))) =
      [o, p, q, r] := by
  generalize hn : (((o.toNat - 0xF0) * 64 + (p.toNat - 0x80)) * 64 + (q.toNat - 0x80)) * 64 + (r.toNat - 0x80) = n
  have hbounds : 0x80 ≤ p.toNat ∧ p.toNat ≤ 0xBF := by split_ifs at hp <;> omega
  have hlow : 0xFFFF < n := by split_ifs at hp <;> omega
  have hvalid : n < 0xD800 ∨ 0xDFFF < n ∧ n < 0x110000 := by split_ifs at hp <;> omega
  unfold String.utf8EncodeChar
  simp only [val_ofNat hvalid]
  rw [if_neg (by omega), if_neg (by omega), if_neg (by omega), octet_eq (o := o) (by omega),
    octet_eq (o := p) (by omega), octet_eq (o := q) (by omega), octet_eq (o := r) (by omega)]

lemma eq_octet_iff {value : UInt8} : o = value ↔ o.toNat = value.toNat :=
  UInt8.toNat_inj.symm

lemma Finishes.encode {pending : Unfinished} {os : List UInt8} {c : Char} (hlead : lead? position o = some pending)
    (h : Finishes pending os c) : String.utf8EncodeChar c = o :: os := by
  rcases lead?_cases position hlead with ho | ho | ho
  · rw [lead?_two position ho.1 ho.2, Option.some.injEq] at hlead
    subst hlead
    obtain ⟨p, rfl, hp, hc⟩ := finishes_one_iff.mp h
    rw [hc]
    exact encode_two ho hp
  · rw [lead?_three position ho.1 ho.2, Option.some.injEq] at hlead
    subst hlead
    obtain ⟨p, os, rfl, hp, h⟩ := finishes_more_iff.mp h
    obtain ⟨q, rfl, hq, hc⟩ := finishes_one_iff.mp h
    rw [hc]
    simp only [apply_ite UInt8.toNat, eq_octet_iff] at hp
    exact encode_three ho hp hq
  · rw [lead?_four position ho.1 ho.2, Option.some.injEq] at hlead
    subst hlead
    obtain ⟨p, os, rfl, hp, h⟩ := finishes_more_iff.mp h
    obtain ⟨q, os, rfl, hq, h⟩ := finishes_more_iff.mp h
    obtain ⟨r, rfl, hr, hc⟩ := finishes_one_iff.mp h
    rw [hc]
    simp only [apply_ite UInt8.toNat, eq_octet_iff] at hp
    exact encode_four ho hp hq hr

lemma exists_octet {n : Nat} (h : n < 256) : ∃ o : UInt8, o.toNat = n := by
  refine ⟨UInt8.ofNat n, ?_⟩
  rw [UInt8.toNat_ofNat']
  exact Nat.mod_eq_of_lt h

lemma eq_ofNat {c : Char} {n : Nat} (h : n = c.toNat) : c = Char.ofNat n := by
  rw [h, Char.ofNat_toNat]

lemma exists_encode_one {c : Char} (hc : c.toNat < 0x80) :
    ∃ o : UInt8, o < 0x80 ∧ String.utf8EncodeChar c = [o] ∧ Char.ofNat o.toNat = c := by
  obtain ⟨o, ho⟩ := exists_octet (n := c.toNat) (by omega)
  refine ⟨o, ?_, ?_, ?_⟩
  · rw [UInt8.lt_iff_toNat_lt, ho]
    exact hc
  · rw [← Char.ofNat_toNat c, ← ho]
    exact encode_one (by omega)
  · rw [ho, Char.ofNat_toNat]

lemma exists_lead {c : Char} (hc : 0x80 ≤ c.toNat) :
    ∃ o os pending, ¬ o < 0x80 ∧ lead? position o = some pending ∧ Finishes pending os c := by
  have hvalid : c.toNat < 0xD800 ∨ 0xDFFF < c.toNat ∧ c.toNat < 0x110000 := c.valid
  have hlead {o : UInt8} (h : 0xC2 ≤ o.toNat) : ¬ o < 0x80 := by
    rw [UInt8.lt_iff_toNat_lt]
    exact Nat.not_lt.mpr (Nat.le_trans (by decide) h)
  obtain ⟨last, hlast⟩ := exists_octet (n := c.toNat % 64 + 0x80) (by omega)
  obtain ⟨middle, hmiddle⟩ := exists_octet (n := c.toNat / 64 % 64 + 0x80) (by omega)
  obtain ⟨high, hhigh⟩ := exists_octet (n := c.toNat / 4096 % 64 + 0x80) (by omega)
  have hlastBounds : 0x80 ≤ last.toNat ∧ last.toNat ≤ 0xBF := by omega
  have hmiddleBounds : 0x80 ≤ middle.toNat ∧ middle.toNat ≤ 0xBF := by omega
  by_cases h₂ : c.toNat ≤ 0x7FF
  · obtain ⟨o, ho⟩ := exists_octet (n := c.toNat / 64 + 0xC0) (by omega)
    refine ⟨o, [last], _, hlead (by omega), lead?_two position (by omega) (by omega), ?_⟩
    exact finishes_one_iff.mpr ⟨last, rfl, hlastBounds, eq_ofNat (by omega)⟩
  by_cases h₃ : c.toNat ≤ 0xFFFF
  · obtain ⟨o, ho⟩ := exists_octet (n := c.toNat / 4096 + 0xE0) (by omega)
    refine ⟨o, [middle, last], _, hlead (by omega), lead?_three position (by omega) (by omega), ?_⟩
    refine finishes_more_iff.mpr ⟨middle, [last], rfl, ?_, finishes_one_iff.mpr ⟨last, rfl, hlastBounds, ?_⟩⟩
    · simp only [apply_ite UInt8.toNat, eq_octet_iff]
      change (if o.toNat = 0xE0 then 0xA0 else 0x80) ≤ _ ∧ _ ≤ if o.toNat = 0xED then 0x9F else 0xBF
      split_ifs <;> omega
    · exact eq_ofNat (by omega)
  · obtain ⟨o, ho⟩ := exists_octet (n := c.toNat / 262144 + 0xF0) (by omega)
    refine ⟨o, [high, middle, last], _, hlead (by omega), lead?_four position (by omega) (by omega), ?_⟩
    refine finishes_more_iff.mpr ⟨high, [middle, last], rfl, ?_, finishes_more_iff.mpr
      ⟨middle, [last], rfl, hmiddleBounds, finishes_one_iff.mpr ⟨last, rfl, hlastBounds, ?_⟩⟩⟩
    · simp only [apply_ite UInt8.toNat, eq_octet_iff]
      change (if o.toNat = 0xF0 then 0x90 else 0x80) ≤ _ ∧ _ ≤ if o.toNat = 0xF4 then 0x8F else 0xBF
      split_ifs <;> omega
    · exact eq_ofNat (by omega)

end Characters

section Decoding

lemma encoded_cons (c : Char) (t : Text) : encoded (c :: t) = String.utf8EncodeChar c ++ encoded t := by
  rw [encoded, List.flatMap_cons]
  rfl

lemma decodeFrom_ascii {o : UInt8} (ho : o < 0x80) (position : Nat) (rest : List UInt8) :
    decodeFrom position none (o :: rest) =
      (Char.ofNat o.toNat :: ·) <$> decodeFrom (position + 1) none rest := by
  rw [Utf8.decodeFrom, if_pos ho]

lemma decodeFrom_lead {o : UInt8} (ho : ¬ o < 0x80) {position : Nat} {pending : Unfinished}
    (hlead : lead? position o = some pending) (rest : List UInt8) :
    decodeFrom position none (o :: rest) = decodeFrom (position + 1) (some pending) rest := by
  rw [Utf8.decodeFrom, if_neg ho, hlead]

lemma decodeFrom_char (c : Char) (position : Nat) (rest : List UInt8) :
    decodeFrom position none (String.utf8EncodeChar c ++ rest) =
      (c :: ·) <$> decodeFrom (position + (String.utf8EncodeChar c).length) none rest := by
  by_cases hc : c.toNat < 0x80
  · obtain ⟨o, ho, hone, hchar⟩ := exists_encode_one hc
    rw [hone, List.singleton_append, decodeFrom_ascii ho, hchar]
    rfl
  · obtain ⟨o, os, pending, ho, hlead, hfinishes⟩ := exists_lead position (Nat.not_lt.mp hc)
    rw [hfinishes.encode position hlead, List.cons_append, decodeFrom_lead ho hlead, hfinishes.decodeFrom,
      List.length_cons, Nat.add_right_comm, Nat.add_assoc]

lemma exists_char {position : Nat} {o : UInt8} {os : List UInt8} {t : Text}
    (h : decodeFrom position none (o :: os) = .ok t) :
    ∃ c rest t', o :: os = String.utf8EncodeChar c ++ rest ∧ t = c :: t' ∧
      decodeFrom (position + (String.utf8EncodeChar c).length) none rest = .ok t' := by
  by_cases ho : o < 0x80
  · rw [decodeFrom_ascii ho] at h
    obtain ⟨t', hrest, rfl⟩ := map_eq_ok_iff.mp h
    have hone := encode_one (UInt8.lt_iff_toNat_lt.mp ho)
    refine ⟨_, os, t', ?_, rfl, ?_⟩
    · rw [hone]
      rfl
    · rwa [hone]
  · cases hlead : lead? position o with
    | none => simp [Utf8.decodeFrom, ho, hlead] at h
    | some pending =>
      rw [decodeFrom_lead ho hlead] at h
      obtain ⟨front, c, rest, t', hfinishes, rfl, rfl, hrest⟩ := exists_finishes h
      have hcode := hfinishes.encode position hlead
      refine ⟨c, rest, t', ?_, rfl, ?_⟩
      · rw [hcode]
        rfl
      · rwa [hcode, List.length_cons, ← Nat.add_assoc, Nat.add_right_comm]

lemma decodeFrom_encoded (position : Nat) (t : Text) (rest : List UInt8) :
    decodeFrom position none (encoded t ++ rest) =
      (t ++ ·) <$> decodeFrom (position + (encoded t).length) none rest := by
  induction t generalizing position with
  | nil =>
    change _ = id <$> _
    rw [id_map]
    rfl
  | cons c t ih =>
    rw [encoded_cons, List.append_assoc, decodeFrom_char, ih, List.length_append, ← Nat.add_assoc]
    cases decodeFrom (position + (String.utf8EncodeChar c).length + (encoded t).length) none rest <;> rfl

/-- Octets are read as a text exactly if they encode it. -/
theorem decode_eq_ok_iff {octets : List UInt8} {t : Text} : decode octets = .ok t ↔ octets = encoded t := by
  constructor
  · rw [decode]
    generalize 0 = position
    intro h
    induction hlength : octets.length using Nat.strongRecOn generalizing octets t position with
    | ind n ih =>
      cases octets with
      | nil =>
        rw [Utf8.decodeFrom] at h
        cases h
        rfl
      | cons o os =>
        obtain ⟨c, rest, t', hoctets, rfl, hrest⟩ := exists_char h
        have hshorter : rest.length < n := by
          have hpos := List.length_pos_iff.mpr (String.utf8EncodeChar_ne_nil (c := c))
          have hsum := congrArg List.length hoctets
          rw [List.length_append] at hsum
          omega
        rw [hoctets, encoded_cons, ih rest.length hshorter _ hrest rfl]
  · rintro rfl
    have h := decodeFrom_encoded 0 t []
    rw [List.append_nil] at h
    rw [decode, h, Utf8.decodeFrom]
    simp

end Decoding

section Pieces

lemma encoded_append (s t : Text) : encoded (s ++ t) = encoded s ++ encoded t :=
  List.flatMap_append

lemma encoded_injective {s t : Text} (h : encoded s = encoded t) : s = t := by
  have hs := decode_eq_ok_iff.mpr h.symm
  rw [decode_eq_ok_iff.mpr rfl] at hs
  exact (Except.ok.inj hs).symm

/-- The octets are those of a character without at least the last of them, and at least one. -/
def Interrupts (octets : List UInt8) (c : Char) : Prop :=
  octets ≠ [] ∧ octets <+: String.utf8EncodeChar c ∧ octets ≠ String.utf8EncodeChar c

lemma exists_prefix_encoded {front : List UInt8} {t : Text} (h : front <+: encoded t) :
    ∃ t₁ t₂ part, t = t₁ ++ t₂ ∧ front = encoded t₁ ++ part ∧ (part = [] ∨ ∃ c ∈ t₂.head?, Interrupts part c) := by
  induction t generalizing front with
  | nil =>
    obtain rfl := List.prefix_nil.mp h
    exact ⟨[], [], [], rfl, rfl, .inl rfl⟩
  | cons c t ih =>
    rw [encoded_cons] at h
    by_cases hwhole : String.utf8EncodeChar c <+: front
    · obtain ⟨rest, rfl⟩ := hwhole
      rw [List.prefix_append_right_inj] at h
      obtain ⟨t₁, t₂, part, rfl, rfl, hpart⟩ := ih h
      refine ⟨c :: t₁, t₂, part, rfl, ?_, hpart⟩
      rw [encoded_cons, List.append_assoc]
    · refine ⟨[], c :: t, front, rfl, rfl, ?_⟩
      by_cases hne : front = []
      · exact .inl hne
      · have hpart := (List.prefix_or_prefix_of_prefix h (List.prefix_append _ _)).resolve_right hwhole
        exact .inr ⟨c, rfl, hne, hpart, fun heq => hwhole (heq ▸ List.prefix_refl _)⟩

lemma decodeFrom_interrupts {part : List UInt8} {c : Char} (h : Interrupts part c) (position : Nat) :
    ∃ o last, decodeFrom position none part = .error ⟨.endOfData, o, position, last⟩ := by
  obtain ⟨hne, hpart, hwhole⟩ := h
  by_cases hc : c.toNat < 0x80
  · -- the code of such a character has no proper part
    obtain ⟨o, -, hone, -⟩ := exists_encode_one hc
    rw [hone] at hpart hwhole
    rcases List.prefix_cons_iff.mp hpart with rfl | ⟨rest, rfl, hrest⟩
    · exact absurd rfl hne
    · rw [List.prefix_nil.mp hrest] at hwhole
      exact absurd rfl hwhole
  · obtain ⟨o, os, pending, ho, hlead, hfinishes⟩ := exists_lead position (Nat.not_lt.mp hc)
    rw [hfinishes.encode position hlead] at hpart hwhole
    rcases List.prefix_cons_iff.mp hpart with rfl | ⟨rest, rfl, hrest⟩
    · exact absurd rfl hne
    · rw [decodeFrom_lead ho hlead]
      obtain ⟨last, hlast⟩ := hfinishes.decodeFrom_prefix (position + 1) hrest fun heq => hwhole (congrArg _ heq)
      rw [hlast, lead?_start hlead]
      exact ⟨_, _, rfl⟩

lemma decode_interrupted (t : Text) {part : List UInt8} {c : Char} (h : Interrupts part c) :
    ∃ o last, decode (encoded t ++ part) = .error ⟨.endOfData, o, (encoded t).length, last⟩ := by
  obtain ⟨o, last, hpart⟩ := decodeFrom_interrupts h (encoded t).length
  refine ⟨o, last, ?_⟩
  rw [decode, decodeFrom_encoded, Nat.zero_add, hpart]
  rfl

lemma decodePiecesFrom_encoded {length : Nat} (hlength : 0 < length) {pieces : Nat} {unfinished rest : List UInt8}
    {t : Text} (ht : unfinished ++ rest = encoded t) (hpieces : rest.length < pieces) :
    decodePiecesFrom length pieces unfinished rest = (t, none) := by
  induction pieces generalizing unfinished rest t with
  | zero => exact absurd hpieces (Nat.not_lt_zero _)
  | succ pieces ih =>
    have hpiece : unfinished ++ rest.take length <+: encoded t := by
      rw [← ht, List.prefix_append_right_inj]
      exact List.take_prefix length rest
    have hrest : (unfinished ++ rest.take length) ++ rest.drop length = encoded t := by
      rw [List.append_assoc, List.take_append_drop, ht]
    obtain ⟨t₁, t₂, part, rfl, hfront, hpart⟩ := exists_prefix_encoded hpiece
    rw [hfront, encoded_append, List.append_assoc, List.append_cancel_left_eq] at hrest
    rw [decodePiecesFrom, hfront]
    have hnext (hmore : rest ≠ []) : (rest.drop length).length < pieces := by
      have hpos := List.length_pos_iff.mpr hmore
      rw [List.length_drop]
      omega
    rcases hpart with rfl | ⟨c, hc, hinterrupts⟩
    · rw [List.append_nil, decode_eq_ok_iff.mpr rfl]
      simp only
      by_cases hmore : rest = []
      · subst hmore
        rw [List.drop_nil, List.append_nil] at hrest
        have hnone : t₂ = [] := encoded_injective (t := []) hrest.symm
        simp [hnone]
      · rw [if_neg (by simpa using hmore), ih hrest (hnext hmore)]
    · obtain ⟨o, last, herror⟩ := decode_interrupted t₁ hinterrupts
      have hmore : rest ≠ [] := by
        rintro rfl
        -- the part would be as long as the codes of all characters that are left
        obtain ⟨t', rfl⟩ := List.head?_eq_some_iff.mp hc
        rw [List.drop_nil, List.append_nil, encoded_cons] at hrest
        have hlength := congrArg List.length hrest
        rw [List.length_append] at hlength
        have hle := hinterrupts.2.1.length_le
        exact hinterrupts.2.2 (hinterrupts.2.1.eq_of_length (by omega))
      rw [herror]
      simp only
      rw [if_pos ⟨trivial, by simpa using hmore⟩, List.take_left, List.drop_left, decode_eq_ok_iff.mpr rfl,
        ih hrest (hnext hmore)]
      rfl

/-- Decoding in pieces gives the whole text, wherever the pieces are cut. -/
theorem decodePieces_encoded {length : Nat} (hlength : 0 < length) (t : Text) :
    decodePieces length (encoded t) = (t, none) := by
  rw [decodePieces]
  exact decodePiecesFrom_encoded hlength rfl (by omega)

end Pieces

end SuiteRunner.Proofs
