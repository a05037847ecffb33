import SuiteRunner.Text.Basic

/-!
The environment that decides which tests apply.
-/

namespace SuiteRunner

structure Environment where
  is3D : Bool := false
  usesGenerator : Bool := true
  deriving DecidableEq, Repr

def Environment.describe (env : Environment) : Text :=
  (if env.is3D then "3D".toList else "2D".toList) ++ ", ".toList ++
    (if env.usesGenerator then "generator".toList else "no generator".toList)

end SuiteRunner
