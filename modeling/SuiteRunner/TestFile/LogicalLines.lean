import SuiteRunner.Text.Basic

/-!
The logical lines of a test file. A line that ends with a backslash goes on in the next one if that is indented
by two spaces; the break between them becomes the escape of a line feed. Blank lines and comments are dropped.
-/

namespace SuiteRunner.TestFile

/-- A carriage return before a line feed is dropped. -/
def dropCarriageReturns : Text → Text
  | [] => []
  | '\r' :: '\n' :: rest => '\n' :: dropCarriageReturns rest
  | c :: rest => c :: dropCarriageReturns rest

/-- A backslash, a line feed and two spaces become a backslash and the letter n. -/
def foldContinuations : Text → Text
  | [] => []
  | '\\' :: '\n' :: ' ' :: ' ' :: rest => '\\' :: 'n' :: foldContinuations rest
  | c :: rest => c :: foldContinuations rest

/-- Whether the first character that is not blank exists and does not start a comment. -/
def hasContent (line : Text) : Bool :=
  match line.dropBlank with
  | [] => false
  | c :: _ => c != '#'

/-- The lines with content, once continuations are folded. -/
def logicalLines (t : Text) : List Text :=
  (foldContinuations (dropCarriageReturns t)).lines.filter hasContent

end SuiteRunner.TestFile
