import SuiteRunner.Config.Schema
import SuiteRunner.Config.Tools
import SuiteRunner.Environment

/-!
Run configurations: which suites to run, with what engine and in which environment.
-/

namespace SuiteRunner

/-- Data that are no map were given for an environment. -/
structure NotAMap where
  kind : Text
  deriving DecidableEq, Repr

def NotAMap.message (e : NotAMap) : Text :=
  e.kind.quoted ++ " object has no attribute 'get'".toList

/-- The environment that the data describe. Without data it is the default one, and a missing flag has its
default; a flag is set by anything that counts as true. -/
def Environment.ofData (data : Data) : Except NotAMap Environment :=
  if ! data.isTrue then .ok {}
  else
    match data with
    | .map _ =>
      .ok {
        is3D := ((data.field? "is_3d".toList).map Data.isTrue).getD false
        usesGenerator := ((data.field? "uses_code_generator".toList).map Data.isTrue).getD true }
    | other => .error ⟨other.kind⟩

/-- A finder and the directory it looks at. -/
structure SuiteSpec where
  finder : Finder
  path : Path
  deriving DecidableEq, Repr

structure Config where
  version : Text
  runtime : Text
  environment : Environment
  suites : List SuiteSpec
  deriving DecidableEq, Repr

/-- Why there is no configuration to run with. -/
inductive ConfigError where
  /-- The data violate the schema. -/
  | invalid (problems : List Violation)
  /-- The data are no map, although nothing was found wrong with them. -/
  | notAMap
  | missingDirectories (paths : List Path)
  | fileNotFound (path : Path)
  /-- The file is not in YAML, as the message tells. -/
  | notYaml (path : Path) (message : Text)
  deriving DecidableEq, Repr

/-- Lines below a heading. -/
def headedLines (heading : Text) (lines : List Text) : Text :=
  heading ++ "\n  ".toList ++ List.intercalate "\n  ".toList lines

namespace ConfigError

def message : ConfigError → Text
  | invalid problems => headedLines "invalid configuration:".toList (problems.map Violation.text)
  | notAMap => "invalid configuration: expected a mapping".toList
  | missingDirectories paths => headedLines "suite directory not found:".toList (paths.map Path.text)
  | fileNotFound path => "configuration file not found: ".toList ++ path.text
  | notYaml path message => "invalid YAML in ".toList ++ path.text ++ ": ".toList ++ message

end ConfigError

namespace Config

/-- Why no configuration comes of a file or of data. -/
inductive LoadError where
  | refused (error : ConfigError)
  /-- The file, or the directory of a suite, cannot be looked at. -/
  | unreadable (path : Path) (fault : ReadFault)
  /-- Reading or checking the data fails. -/
  | raised (fault : Fault)
  /-- The data are a map with which nothing was found wrong, and yet a part of them is missing or has another form. -/
  | unfit
  deriving DecidableEq, Repr

/-- The suite that an entry of the list describes; its directory is taken relative to the base. -/
def suiteOfData? (base : Path) (data : Data) : Option SuiteSpec := do
  let finder ← ((data.field? "finder".toList).bind Data.text?).bind Finder.ofName?
  let path ← (data.field? "path".toList).bind Data.text?
  return ⟨finder, base.join (Path.ofText path)⟩

/-- The parts of a configuration, if all are there. -/
def parts? (base : Path) (data : Data) : Option Config := do
  let version ← (data.field? "version".toList).bind Data.text?
  let runtime ← (data.field? "runtime".toList).bind Data.text?
  let items ← match data.field? "suites".toList with
    | some (.list items) => some items
    | _ => none
  let suites ← items.mapM (suiteOfData? base)
  let environment ← (Environment.ofData ((data.field? "environment".toList).getD .null)).toOption
  return ⟨version, runtime, environment, suites⟩

/-- The configuration with absolute directories. -/
def resolved (fs : FileSystem) (config : Config) : Config :=
  { config with suites := config.suites.map fun suite => { suite with path := fs.resolve suite.path } }

/-- The configuration with absolute directories, which must be there. -/
def located (fs : FileSystem) (config : Config) : Except LoadError Config :=
  match (config.suites.map SuiteSpec.path).find? Path.hasNul with
  | some path => .error (.unreadable path (.file .nulInPath))
  | none =>
    let config := config.resolved fs
    let directories := config.suites.map SuiteSpec.path
    match fs.firstPathFault? directories with
    | some (path, fault) => .error (.unreadable path (.file fault))
    | none =>
      let missing := directories.filter (! fs.isDir ·)
      if missing.isEmpty then .ok config else .error (.refused (.missingDirectories missing))

/-- What is wrong with the data, ordered by place. -/
def problems (validator : Validator) (data : Data) : Except Fault (List Violation) :=
  (validator schema data).map fun found => found.mergeSort Violation.le

/-- The configuration that the data describe, if they are a map. -/
def ofMap (fs : FileSystem) (base : Path) (data : Data) : Except LoadError Config :=
  match data with
  | .map _ =>
    match parts? base data with
    | none => .error .unfit
    | some config => config.located fs
  | _ => .error (.refused .notAMap)

/-- The configuration that the data describe. The validator must find nothing wrong with them, and the directories
must be there. -/
def ofData (validator : Validator) (fs : FileSystem) (base : Path) (data : Data) : Except LoadError Config :=
  match problems validator data with
  | .error fault => .error (.raised fault)
  | .ok (problem :: others) => .error (.refused (.invalid (problem :: others)))
  | .ok [] => ofMap fs base data

/-- The test files of each suite, in the order of the suites, up to the first path that cannot be looked at. -/
def testFiles (fs : FileSystem) (config : Config) : Except (Path × FileFault) (List (List Path)) :=
  config.suites.mapM fun suite => fs.search suite.finder suite.path

end Config

end SuiteRunner
