/-!
Text is a list of characters. This module cuts text into pieces, trims it and splits it into words; what
counts as blank is the set of white space characters of Unicode together with the four separators
U+001C to U+001F.
-/

namespace SuiteRunner

/-- Text is a list of characters, so that every reader is a recursion on its data. -/
abbrev Text := List Char

/-- A set of characters, given by closed ranges of code points. -/
abbrev CharRanges := List (Nat × Nat)

/-- Whether the character lies in one of the ranges. -/
def CharRanges.has (ranges : CharRanges) (c : Char) : Bool :=
  ranges.any fun range => range.1 ≤ c.toNat && c.toNat ≤ range.2

/-- The blank characters: white space of Unicode and the information separators. -/
def blankRanges : CharRanges :=
  [(0x09, 0x0D), (0x1C, 0x20), (0x85, 0x85), (0xA0, 0xA0), (0x1680, 0x1680), (0x2000, 0x200A),
   (0x2028, 0x2029), (0x202F, 0x202F), (0x205F, 0x205F), (0x3000, 0x3000)]

def isBlank (c : Char) : Bool :=
  blankRanges.has c

/-- A capital letter of ASCII. -/
def isCapital (c : Char) : Bool :=
  'A' ≤ c && c ≤ 'Z'

namespace Text

/-- The text from its first character that is not blank. -/
def dropBlank (t : Text) : Text :=
  t.dropWhile isBlank

/-- The text up to its last character that is not blank. -/
def dropBlankEnd (t : Text) : Text :=
  (dropBlank t.reverse).reverse

/-- The text without the blanks at its two ends. -/
def trim (t : Text) : Text :=
  dropBlankEnd (dropBlank t)

/-- The pieces between line feeds. -/
def lines (t : Text) : List Text :=
  t.splitOn '\n'

/-- The longest pieces without a blank. -/
def words (t : Text) : List Text :=
  (t.splitOnP isBlank).filter (! ·.isEmpty)

/-- The texts with a line feed between neighbours. -/
def unlines (ts : List Text) : Text :=
  List.intercalate ['\n'] ts

/-- The words with a space between neighbours. -/
def unwords (ts : List Text) : Text :=
  List.intercalate [' '] ts

/-- What stands before the first such character and what stands after it; the second is empty when there
is none. -/
def cutAt (mark : Char) : Text → Text × Text
  | [] => ([], [])
  | c :: rest =>
    if c = mark then ([], rest)
    else (c :: (cutAt mark rest).1, (cutAt mark rest).2)

/-- The decimal digits of a number. -/
def ofNat (n : Nat) : Text :=
  Nat.toDigits 10 n

/-- The decimal digits of a number, after zeros that fill them up to the width. -/
def ofNatPadded (width n : Nat) : Text :=
  List.replicate (width - (ofNat n).length) '0' ++ ofNat n

/-- The decimal digits of a number, after a minus sign if it is negative. -/
def ofInt : Int → Text
  | .ofNat n => ofNat n
  | .negSucc n => '-' :: ofNat (n + 1)

/-- The text without a line feed at its end, if it has one. -/
def dropFinalNewline (t : Text) : Text :=
  if t.getLast? = some '\n' then t.dropLast else t

/-- Texts are ordered character by character. -/
def precedes (s t : Text) : Bool :=
  s.lex t fun c d => decide (c < d)

/-- Lists of texts are ordered text by text. -/
def listLe (ss ts : List Text) : Bool :=
  ! ts.lex ss precedes

/-- The number of octets that the text has in UTF-8. -/
def octetCount (t : Text) : Nat :=
  t.foldl (fun octets c => octets + c.utf8Size) 0

/-- The text after spaces that fill it up to the width. -/
def padLeft (width : Nat) (t : Text) : Text :=
  List.replicate (width - t.length) ' ' ++ t

/-- The text before spaces that fill it up to the width. -/
def padRight (width : Nat) (t : Text) : Text :=
  t ++ List.replicate (width - t.length) ' '

end Text

end SuiteRunner
