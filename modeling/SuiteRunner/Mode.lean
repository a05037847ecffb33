import SuiteRunner.Text.Basic

/-!
The modes in which a test is run.
-/

namespace SuiteRunner

/-- What the modes mean is up to the engine; each run of a test has an engine of its own. -/
inductive Mode where
  | normal
  | run
  deriving DecidableEq, Repr

def Mode.text : Mode → Text
  | normal => "normal".toList
  | run => "run".toList

end SuiteRunner
