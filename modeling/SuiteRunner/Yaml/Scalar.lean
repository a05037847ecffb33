import SuiteRunner.Text.Quoted
import SuiteRunner.Yaml.Fault
import SuiteRunner.Yaml.Token

/-!
Reading scalars off the front of a text: quoted ones and plain ones, with the folding of line ends. A single
line end becomes a space, of several the first is dropped.
-/

namespace SuiteRunner.Yaml

/-- What folding makes of the line ends after the first one. -/
def fold (first : Char) (others : Text) : Text :=
  if breakChar first ≠ '\n' then breakChar first :: others
  else if others.isEmpty then [' ']
  else others

/-! ## Quoted scalars -/

/-- Passes over the blanks at the start of lines and collects the line ends between them; there must be no
document mark. -/
def quotedBreaks : Bool → Text → Except Fault (Text × Text)
  | _, [] => .ok ([], [])
  | lineStart, c :: rest =>
    if lineStart && atDocumentMark (c :: rest) then .error .malformed
    else if c == ' ' || c == '\t' then quotedBreaks false rest
    else if isBreak c then (quotedBreaks true rest).map fun (breaks, rest) => (breakChar c :: breaks, rest)
    else .ok ([], c :: rest)

/-- What a gap between words stands for. -/
def quotedGap (t : Text) : Except Fault (Text × Text) :=
  let isSpace := fun (c : Char) => c == ' ' || c == '\t'
  match t.dropWhile isSpace with
  | [] => .error .endOfText
  | c :: rest =>
    if isBreak c then (quotedBreaks true rest).map fun (breaks, rest) => (fold c breaks, rest)
    else .ok (t.takeWhile isSpace, c :: rest)

/-- The character that a letter stands for after a backslash. -/
def escapes : List (Char × Nat) :=
  [('0', 0x0), ('a', 0x7), ('b', 0x8), ('t', 0x9), ('\t', 0x9), ('n', 0xA), ('v', 0xB), ('f', 0xC), ('r', 0xD),
   ('e', 0x1B), (' ', 0x20), ('"', 0x22), ('\\', 0x5C), ('/', 0x2F), ('N', 0x85), ('_', 0xA0), ('L', 0x2028),
   ('P', 0x2029)]

/-- How many hexadecimal digits follow the letter. -/
def escapeLengths : List (Char × Nat) :=
  [('x', 2), ('u', 4), ('U', 8)]

/-- The value of a hexadecimal digit. -/
def hexDigit? (c : Char) : Option Nat :=
  if '0' ≤ c && c ≤ '9' then some (c.toNat - '0'.toNat)
  else if 'a' ≤ c && c ≤ 'f' then some (c.toNat - 'a'.toNat + 10)
  else if 'A' ≤ c && c ≤ 'F' then some (c.toNat - 'A'.toNat + 10)
  else none

/-- The number that hexadecimal digits stand for. -/
def hexNumber? (t : Text) : Option Nat :=
  t.foldl (fun value c => value.bind fun n => (hexDigit? c).map (n * 16 + ·)) (some 0)

/-- The character with the code point. -/
def charOfCode (code : Nat) : Except ScalarFault Char :=
  if code < 0x110000 then .ok (Char.ofNat code)
  else if code < 0x80000000 then .error .notACharacter
  else .error .codeTooLarge

/-- What an escape stands for, given what follows the backslash. -/
def readEscape : Text → Except Fault (Text × Text)
  | [] => .error .endOfText
  | c :: rest =>
    match escapes.lookup c with
    | some code => .ok ([Char.ofNat code], rest)
    | none =>
      match escapeLengths.lookup c with
      | some length =>
        match hexNumber? (rest.take length) with
        | none => .error .malformed
        | some code =>
          if rest.length < length then .error .endOfText
          else match charOfCode code with
          | .error fault => .error (.scalar fault)
          | .ok found => .ok ([found], rest.drop length)
      | none => if isBreak c then quotedBreaks true rest else .error .malformed

/-- The content of a scalar behind its opening quote, and what follows the closing one. Of the steps there are
at most as many as characters. -/
def quotedFrom (double : Bool) : Nat → Text → Except Fault (Text × Text)
  | 0, _ => .error .malformed
  | _, [] => .error .endOfText
  | steps + 1, c :: rest =>
    if c = '"' ∧ double then .ok ([], rest)
    else if c = '\'' ∧ ¬ double then
      match rest with
      | '\'' :: rest => (quotedFrom double steps rest).map fun (t, rest) => ('\'' :: t, rest)
      | _ => .ok ([], rest)
    else
      let part :=
        if c = '\\' ∧ double then readEscape rest
        else if atGap (c :: rest) then quotedGap (c :: rest)
        else .ok ([c], rest)
      part.bind fun (front, rest) => (quotedFrom double steps rest).map fun (t, rest) => (front ++ t, rest)

/-- The scalar behind an opening quote. -/
def quotedScalar (double : Bool) (t : Text) : Except Fault (Text × Text) :=
  quotedFrom double (t.length + 1) t

/-! ## Plain scalars -/

/-- Whether a character of a plain scalar cannot stand here. -/
def atPlainEnd (flow : Bool) (t : Text) : Bool :=
  atGap t ||
    match t with
    | ':' :: rest => atGap rest || (flow && rest.head?.any fun c => ",[]".toList.contains c || isBrace c)
    | c :: _ => flow && (",?[]".toList.contains c || isBrace c)
    | [] => true
where
  isBrace (c : Char) : Bool := c == Char.ofNat 0x7B || c == Char.ofNat 0x7D

/-- The longest word of a plain scalar. -/
def plainWord (flow : Bool) : Text → Text × Text
  | [] => ([], [])
  | c :: rest =>
    if atPlainEnd flow (c :: rest) then ([], c :: rest)
    else (c :: (plainWord flow rest).1, (plainWord flow rest).2)

/-- The gap after a word of a plain scalar: what it stands for, whether a line ends in it, the column after it
in that case, and the rest. It stands for nothing before a document mark. -/
structure PlainGap where
  content : Text
  breaks : Bool
  column : Nat
  rest : Text

/-- The line ends and the spaces at the start of lines: those line ends, the column reached and the rest, or no
line ends if a document mark comes up. -/
def plainBreaks : Bool → Nat → Text → Option Text × Nat × Text
  | _, column, [] => (some [], column, [])
  | lineStart, column, c :: rest =>
    if lineStart && atDocumentMark (c :: rest) then (none, column, c :: rest)
    else if c == ' ' then plainBreaks false (column + 1) rest
    else if isBreak c then
      let (breaks, column, rest) := plainBreaks true 0 rest
      (breaks.map (breakChar c :: ·), column, rest)
    else (some [], column, c :: rest)

def plainGap (t : Text) : PlainGap :=
  match t.dropWhile (· == ' ') with
  | [] => ⟨t.takeWhile (· == ' '), false, 0, []⟩
  | c :: rest =>
    if isBreak c then
      let (breaks, column, rest) := plainBreaks true 0 rest
      ⟨(breaks.map (fold c)).getD [], true, column, rest⟩
    else ⟨t.takeWhile (· == ' '), false, 0, c :: rest⟩

/-- A plain scalar: its text, whether a line ends behind its last word, and the rest. -/
structure PlainScalar where
  text : Text
  breaks : Bool
  rest : Text

/-- Reads words and the gaps between them. In block style the lines of a scalar are indented at least so
much. -/
def plainFrom (flow : Bool) (indent : Nat) : Nat → Text → PlainScalar
  | 0, t => ⟨[], false, t⟩
  | steps + 1, t =>
    let (word, afterWord) := plainWord flow t
    let gap := plainGap afterWord
    let stops := gap.content.isEmpty || gap.rest.head? = some '#' || atPlainEnd flow gap.rest ||
      (! flow && gap.breaks && gap.column < indent)
    if stops then ⟨word, gap.breaks, gap.rest⟩
    else
      let next := plainFrom flow indent steps gap.rest
      ⟨word ++ gap.content ++ next.text, next.breaks, next.rest⟩

/-- The plain scalar at the front of the text. -/
def plainScalar (flow : Bool) (indent : Nat) (t : Text) : PlainScalar :=
  plainFrom flow indent (t.length + 1) t

end SuiteRunner.Yaml
