import SuiteRunner.Run.Session
import SuiteRunner.TestFile.Load

/-!
Tests for use inside another test framework: each test is one parameter, marked if it is to be skipped, and
passes or fails as a whole.
-/

namespace SuiteRunner

/-- A test as it is handed to the framework: under a name, and with the reason if it is to be skipped. -/
structure Parameter where
  test : TestCase
  id : Text
  skip : Option Text
  deriving DecidableEq, Repr

def TestCase.parameter (env : Environment) (test : TestCase) : Parameter where
  test := test
  id := test.fullName
  skip := if test.applies env then none else some ("not applicable to ".toList ++ env.describe)

/-- The parameters of all files, in order; the first file that cannot be loaded decides the error. -/
def collect (fs : FileSystem) (env : Environment) (paths : List Path) :
    Except (Path × TestFile.LoadError) (List Parameter) := do
  let suites ← paths.mapM fun path =>
    match TestFile.load fs path with
    | .ok suite => .ok suite
    | .error e => .error (path, e)
  return (suites.flatMap (·.tests)).map (TestCase.parameter env)

/-- What a report fails with: the texts of its failures with a blank line between neighbours. -/
def Report.failureText (report : Report) : Option Text :=
  if report.ok then none
  else some (List.intercalate "\n\n".toList (report.failures.map RunResult.text))

/-- What the test fails with when run in all its modes. -/
def Engine.assertPasses {σ : Type} (engine : Engine σ) (env : Environment) (test : TestCase) (s : σ) :
    Except Fault (Option Text) :=
  (engine.runTest env test s).value.map Report.failureText

end SuiteRunner
