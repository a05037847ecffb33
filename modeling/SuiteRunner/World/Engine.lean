import SuiteRunner.Engine.Basic
import SuiteRunner.World.Command
import SuiteRunner.World.Definitions

/-!
The world as an engine. Each run of a test gets a new world.
-/

namespace SuiteRunner

namespace World

/-- How deeply calls may be nested. -/
def depthLimit : Nat := 1000

/-- A stop as the fault that the engine reports. -/
def Stop.toFault : Stop → Fault
  | fault f => f
  | tooDeep => .foreign "DepthError".toList "calls are nested too deeply".toList

/-- Only files of models can be loaded; the world is then a new one. -/
def openModel (path : Text) (world : World) : Except Fault Unit × World :=
  if ".nlogo".toList.isSuffixOf path then
    (.ok (), { world with turtles := 0, globals := [], procedures := [], reporters := [] })
  else (.error (.modelLoad ("Not a model file: ".toList ++ path) (some path)), world)

end World

/-- The engine of worlds. -/
def Engine.world : Engine World where
  start _ _ := fun _ => (.ok (), {})
  compile source := World.compile source
  compileCommand t agent := fun w => (w.check agent t, w)
  execute t agent := fun w =>
    let (ended, w) := World.execute World.depthLimit t agent w
    (ended.mapError World.Stop.toFault, w)
  evaluate t agent := fun w => ((World.evaluate World.depthLimit t agent w).mapError World.Stop.toFault, w)
  openModel path := World.openModel path
  dispose := fun w => (.ok (), { w with disposed := true })

end SuiteRunner
