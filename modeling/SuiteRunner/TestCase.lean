import SuiteRunner.Text.Quoted
import SuiteRunner.Statement.Basic

/-!
Tests and the suites they belong to.
-/

namespace SuiteRunner

/-- What a run is asked to perform: a statement, or some object that is none. -/
abbrev Element := Option Statement

/-- A name and the statements under it. The definitions among the statements are compiled before a run, the
others are performed one after the other. -/
structure TestCase where
  suite : Text
  name : Text
  statements : List Statement
  definitions : Text
  executable : List Element
  deriving DecidableEq, Repr

/-- The sources of the definitions, in order. -/
def definitionSources (statements : List Statement) : List Text :=
  statements.filterMap fun
    | .definition source => some source
    | _ => none

namespace TestCase

/-- The test made of these elements: definitions are joined by line feeds, all else is performed. -/
def ofElements (suite name : Text) (elements : List Element) : TestCase where
  suite := suite
  name := name
  statements := elements.filterMap id
  definitions := Text.unlines (definitionSources (elements.filterMap id))
  executable := elements.filter fun element => ! element.any Statement.isDefinition

/-- The test made of these statements. -/
def ofStatements (suite name : Text) (statements : List Statement) : TestCase :=
  ofElements suite name (statements.map some)

/-- Whether a test may have the name: it must not start with a blank. -/
def isName (name : Text) : Bool :=
  ! name.head?.any isBlank

/-- What is said of a name that no test may have. -/
def badNameMessage (name : Text) : Text :=
  "test name must not start with whitespace: ".toList ++ name.quoted

def fullName (test : TestCase) : Text :=
  test.suite ++ "::".toList ++ test.name

/-- A star in front of the name asks for a single run, in normal mode. -/
def runsOnce (test : TestCase) : Bool :=
  test.name.head? == some '*'

end TestCase

/-- The tests of one file. -/
structure Suite where
  name : Text
  tests : List TestCase
  file : Text
  deriving DecidableEq, Repr

end SuiteRunner
