import SuiteRunner.Text.Basic

/-!
Places in test files.
-/

namespace SuiteRunner

/-- A logical line of a file, counted from one over the lines that are left when continuations are folded and
comments and blank lines dropped; zero stands for the whole file. -/
structure Location where
  file : Text
  line : Int
  test : Option Text := none
  deriving DecidableEq, Repr

/-- The test is shown in brackets when it has a name. -/
def Location.text (location : Location) : Text :=
  let place := location.file ++ ':' :: Text.ofInt location.line
  match location.test with
  | none | some [] => place
  | some test => place ++ " [".toList ++ test ++ [']']

end SuiteRunner
