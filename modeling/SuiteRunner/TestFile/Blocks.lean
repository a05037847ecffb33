import SuiteRunner.Statement.Reader
import SuiteRunner.TestCase
import SuiteRunner.TestFile.LogicalLines

/-!
The tests of a file. A line that does not start with a blank names a test; the lines below it that do are its
statements. The first line at fault decides the error.
-/

namespace SuiteRunner.TestFile

/-- Whether the line belongs to the test above it. -/
def isBody (line : Text) : Bool :=
  line.head?.any isBlank

/-- A header and the body lines below it. -/
abbrev Block := Text × List Text

/-- The body lines in front of the first header, and the blocks. -/
def blocks : List Text → List Text × List Block
  | [] => ([], [])
  | line :: rest =>
    let (front, others) := blocks rest
    if isBody line then (line :: front, others) else ([], (line, front) :: others)

/-- The statements of consecutive body lines, the first of which has the given number. -/
def readBody (file name : Text) : Nat → List Text → Except ParseError (List Statement)
  | _, [] => .ok []
  | number, line :: rest =>
    match Statement.read line.trim with
    | .error cause => .error ⟨cause, some ⟨file, number, some name⟩⟩
    | .ok statement => (readBody file name (number + 1) rest).map (statement :: ·)

/-- The tests of consecutive blocks, the header of the first of which has the given number. -/
def readBlocks (suite file : Text) : Nat → List Block → Except ParseError (List TestCase)
  | _, [] => .ok []
  | number, (header, body) :: rest =>
    match readBody file header.trim (number + 1) body with
    | .error e => .error e
    | .ok statements =>
      (readBlocks suite file (number + 1 + body.length) rest).map
        (TestCase.ofStatements suite header.trim statements :: ·)

/-- The name by which errors refer to the file: its own, or that of the suite if it has none. -/
def fileName (suite : Text) (file : Option Text) : Text :=
  match file with
  | none | some [] => suite
  | some file => file

/-- The tests that the logical lines make up. -/
def readLines (suite : Text) (file : Option Text) (lines : List Text) : Except ParseError (List TestCase) :=
  let file := fileName suite file
  match blocks lines with
  | (line :: _, _) => .error ⟨.orphanLine line, some ⟨file, 1, none⟩⟩
  | ([], found) => readBlocks suite file 1 found

/-- The tests that a text makes up. -/
def parse (suite : Text) (file : Option Text) (t : Text) : Except ParseError (List TestCase) :=
  readLines suite file (logicalLines t)

end SuiteRunner.TestFile
