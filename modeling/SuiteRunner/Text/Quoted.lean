import SuiteRunner.Text.Printable

/-!
The quoted form of a text: between two quotes, with escapes for the quote, the backslash and every character
that is not printable.
-/

namespace SuiteRunner

/-- The number in lower-case hexadecimal, with zeros in front up to the width. -/
def hexadecimal (width n : Nat) : Text :=
  List.replicate (width - (Nat.toDigits 16 n).length) '0' ++ Nat.toDigits 16 n

namespace Text

/-- A text is put between apostrophes, unless it holds one and holds no double quote. -/
def quoteFor (t : Text) : Char :=
  if '\'' ∈ t ∧ '"' ∉ t then '"' else '\''

/-- One character between the given quotes. -/
def quoteChar (quote c : Char) : Text :=
  if c = quote ∨ c = '\\' then ['\\', c]
  else if c = '\n' then ['\\', 'n']
  else if c = '\r' then ['\\', 'r']
  else if c = '\t' then ['\\', 't']
  else if isPrintable c then [c]
  else if c.toNat < 0x100 then '\\' :: 'x' :: hexadecimal 2 c.toNat
  else if c.toNat < 0x10000 then '\\' :: 'u' :: hexadecimal 4 c.toNat
  else '\\' :: 'U' :: hexadecimal 8 c.toNat

def quoted (t : Text) : Text :=
  quoteFor t :: t.flatMap (quoteChar (quoteFor t)) ++ [quoteFor t]

end Text

end SuiteRunner
