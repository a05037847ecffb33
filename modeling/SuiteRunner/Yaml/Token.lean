import SuiteRunner.Text.Basic

/-!
The tokens of YAML documents, as far as configuration files need them: collections in block and in flow style,
plain and quoted scalars, and document marks.
-/

namespace SuiteRunner.Yaml

inductive Token where
  | documentStart
  | documentEnd
  | blockListStart
  | blockMapStart
  | blockEnd
  | flowListStart
  | flowListEnd
  | flowMapStart
  | flowMapEnd
  | blockEntry
  | flowEntry
  | key
  | value
  | scalar (text : Text) (plain : Bool)
  /-- The end of the text. -/
  | streamEnd
  deriving DecidableEq, Repr

/-- The characters that end a line. -/
def isBreak (c : Char) : Bool :=
  c == '\n' || c == '\r' || c == Char.ofNat 0x85 || c == Char.ofNat 0x2028 || c == Char.ofNat 0x2029

/-- The character by which a line end is kept. -/
def breakChar (c : Char) : Char :=
  if c == Char.ofNat 0x2028 || c == Char.ofNat 0x2029 then c else '\n'

/-- Whether a gap starts here: the end of the text, a space, a tab or a line end. -/
def atGap : Text → Bool
  | [] => true
  | c :: _ => c == ' ' || c == '\t' || isBreak c

/-- Whether one of the two marks between documents stands here. -/
def atDocumentMark (t : Text) : Bool :=
  ("---".toList.isPrefixOf t || "...".toList.isPrefixOf t) && atGap (t.drop 3)

/-- The characters that may stand in a document. -/
def isAllowed (c : Char) : Bool :=
  let n := c.toNat
  n == 0x9 || n == 0xA || n == 0xD || n == 0x85 ||
    CharRanges.has [(0x20, 0x7E), (0xA0, 0xD7FF), (0xE000, 0xFFFD), (0x10000, 0x10FFFF)] c

end SuiteRunner.Yaml
