import SuiteRunner.Text.Quoted

/-!
Reading octets as text in UTF-8. Reading stops at the first octet after which no text can follow, and tells
which octets are at fault and why.
-/

namespace SuiteRunner.Utf8

inductive Reason where
  | startByte
  | continuationByte
  | endOfData
  deriving DecidableEq, Repr

/-- The octets from position `first` to position `last` begin with `octet` and are no character. -/
structure Fault where
  reason : Reason
  octet : UInt8
  first : Nat
  last : Nat
  deriving DecidableEq, Repr

def Reason.text : Reason → Text
  | .startByte => "invalid start byte".toList
  | .continuationByte => "invalid continuation byte".toList
  | .endOfData => "unexpected end of data".toList

def Fault.message (fault : Fault) : Text :=
  let place :=
    if fault.first = fault.last then
      "byte 0x".toList ++ hexadecimal 2 fault.octet.toNat ++ " in position ".toList ++ Text.ofNat fault.first
    else
      "bytes in position ".toList ++ Text.ofNat fault.first ++ '-' :: Text.ofNat fault.last
  "'utf-8' codec can't decode ".toList ++ place ++ ": ".toList ++ fault.reason.text

/-- A character whose first octets have been read: where it starts, its first octet, the bits so far, how many
octets are missing, and between which bounds the next one lies. -/
structure Unfinished where
  start : Nat
  octet : UInt8
  bits : Nat
  missing : Nat
  low : UInt8
  high : UInt8

/-- What an octet from 0x80 on starts, if it can start a character at all. -/
def lead? (position : Nat) (octet : UInt8) : Option Unfinished :=
  if octet < 0xC2 then none
  else if octet < 0xE0 then some ⟨position, octet, octet.toNat - 0xC0, 1, 0x80, 0xBF⟩
  else if octet < 0xF0 then
    some ⟨position, octet, octet.toNat - 0xE0, 2, if octet = 0xE0 then 0xA0 else 0x80,
      if octet = 0xED then 0x9F else 0xBF⟩
  else if octet < 0xF5 then
    some ⟨position, octet, octet.toNat - 0xF0, 3, if octet = 0xF0 then 0x90 else 0x80,
      if octet = 0xF4 then 0x8F else 0xBF⟩
  else none

/-- Reads on from a position, inside the unfinished character if there is one. -/
def decodeFrom (position : Nat) : Option Unfinished → List UInt8 → Except Fault Text
  | none, [] => .ok []
  | some pending, [] => .error ⟨.endOfData, pending.octet, pending.start, position - 1⟩
  | none, octet :: rest =>
    if octet < 0x80 then
      (Char.ofNat octet.toNat :: ·) <$> decodeFrom (position + 1) none rest
    else
      match lead? position octet with
      | none => .error ⟨.startByte, octet, position, position⟩
      | some pending => decodeFrom (position + 1) (some pending) rest
  | some pending, octet :: rest =>
    if pending.low ≤ octet ∧ octet ≤ pending.high then
      let bits := pending.bits * 64 + (octet.toNat - 0x80)
      if pending.missing = 1 then
        (Char.ofNat bits :: ·) <$> decodeFrom (position + 1) none rest
      else
        decodeFrom (position + 1) (some ⟨pending.start, pending.octet, bits, pending.missing - 1, 0x80, 0xBF⟩) rest
    else .error ⟨.continuationByte, pending.octet, pending.start, position - 1⟩

/-- The text that the octets stand for. -/
def decode (octets : List UInt8) : Except Fault Text :=
  decodeFrom 0 none octets

/-- Decodes octets that come in pieces of the length: the text up to the first faulty piece, and its fault. What one
piece leaves unfinished is put in front of the next one, and places are counted from there. Of the pieces there are
at most so many. -/
def decodePiecesFrom (length : Nat) : Nat → List UInt8 → List UInt8 → Text × Option Fault
  | 0, _, _ => ([], none)
  | pieces + 1, unfinished, rest =>
    let piece := unfinished ++ rest.take length
    match decode piece with
    | .ok t =>
      if rest.isEmpty then (t, none)
      else
        let (others, fault) := decodePiecesFrom length pieces [] (rest.drop length)
        (t ++ others, fault)
    | .error fault =>
      if fault.reason = .endOfData ∧ ! rest.isEmpty then
        let t := (decode (piece.take fault.first)).toOption.getD []
        let (others, fault) := decodePiecesFrom length pieces (piece.drop fault.first) (rest.drop length)
        (t ++ others, fault)
      else ([], some fault)

/-- The text of octets that come in pieces of the length, up to the first faulty piece, and its fault. -/
def decodePieces (length : Nat) (octets : List UInt8) : Text × Option Fault :=
  decodePiecesFrom length (octets.length + 2) [] octets

end SuiteRunner.Utf8
