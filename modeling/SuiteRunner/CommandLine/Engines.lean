import SuiteRunner.CommandLine.Run
import SuiteRunner.Data.Validation
import SuiteRunner.Engine.Scripted
import SuiteRunner.World.Engine
import SuiteRunner.Yaml.Reader

/-!
The engines and the tools that the program has ready, and what it has to know of the files before it runs.
-/

namespace SuiteRunner.CommandLine

/-- The engines under the names by which configurations refer to them. -/
def engines : Catalogue AnyEngine :=
  [⟨"engines".toList, false,
    [⟨"world".toList, some ⟨Engine.world, {}⟩⟩,
     ⟨"scripted".toList, some ⟨Engine.scripted fun _ => {}, .normal⟩⟩]⟩]

/-- The reader and the validator of configurations. -/
def tools : Config.Tools :=
  ⟨Yaml.reader, schemaViolations⟩

/-- The configuration file that the arguments name. -/
def configPath? (arguments : List Text) : Option Path :=
  match Request.read arguments with
  | .run options => some (Path.ofText options.config)
  | _ => none

/-- The directories that the configuration file names, whether they are there or not. -/
def directories (fs : FileSystem) (path : Path) : List Path :=
  let config := do
    let octets ← (fs.octets path).toOption
    let data ← (Config.dataOf tools.reader path octets).toOption
    Config.parts? path.parent data
  (config.map fun config => (config.resolved fs).suites.map SuiteSpec.path).getD []

end SuiteRunner.CommandLine
