import SuiteRunner.Environment
import SuiteRunner.Mode
import SuiteRunner.TestCase

/-!
Which tests apply in an environment, and in which modes they are run. The name of a test decides both.
-/

namespace SuiteRunner

/-- A name that ends in a dimension asks for a build of that dimension. -/
def dimensionFits (name : Text) (env : Environment) : Bool :=
  if "_2D".toList.isSuffixOf name then ! env.is3D
  else if "_3D".toList.isSuffixOf name then env.is3D
  else true

/-- A name that starts with the generator or its absence asks for a build with it or without. -/
def generatorFits (name : Text) (env : Environment) : Bool :=
  if "Generator".toList.isPrefixOf name then env.usesGenerator
  else if "NoGenerator".toList.isPrefixOf name then ! env.usesGenerator
  else true

namespace TestCase

/-- Whether the test applies in the environment. -/
def applies (test : TestCase) (env : Environment) : Bool :=
  dimensionFits test.name env && generatorFits test.name env

/-- The modes of the test, in the order in which they are run. -/
def modes (test : TestCase) : List Mode :=
  if test.runsOnce then [.normal] else [.normal, .run]

end TestCase

end SuiteRunner
