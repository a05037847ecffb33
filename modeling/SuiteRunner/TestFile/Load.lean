import SuiteRunner.Diagnostic
import SuiteRunner.File.Finder
import SuiteRunner.TestFile.Blocks

/-!
Loading test files. A file that cannot be read or parsed is reported and left out; the others are loaded all the
same.
-/

namespace SuiteRunner.TestFile

/-- The text without any occurrence of the extension. -/
def dropExtensions : Text → Text
  | [] => []
  | '.' :: 't' :: 'x' :: 't' :: rest => dropExtensions rest
  | c :: rest => c :: dropExtensions rest

/-- A directory file has the suite of its directory, any other file one of its own name. -/
def suiteName (path : Path) : Text :=
  if path.name = directoryFile then path.parent.name else dropExtensions path.name

/-- Why a file is no suite. -/
inductive LoadError where
  | unreadable (fault : ReadFault)
  | malformed (error : ParseError)
  deriving DecidableEq, Repr

/-- The suite in a file. -/
def load (fs : FileSystem) (path : Path) : Except LoadError Suite :=
  match fs.readText path with
  | .error fault => .error (.unreadable fault)
  | .ok t =>
    match parse (suiteName path) (some path.text) t with
    | .error e => .error (.malformed e)
    | .ok tests => .ok ⟨suiteName path, tests, path.text⟩

/-- The place of a file as a whole. -/
def wholeFile (path : Path) (test : Option Text) : Location :=
  ⟨path.text, 0, test⟩

/-- The diagnostic of a file that is left out. -/
def LoadError.diagnostic (path : Path) : LoadError → Diagnostic
  | unreadable fault =>
    { severity := .error
      message := "cannot read test file: ".toList ++ fault.message path
      location := some (wholeFile path none) }
  | malformed e =>
    { severity := .error
      message := e.cause.message
      location := e.location.or (some (wholeFile path none)) }

/-- What there is to say of a loaded suite: that it has no tests, and which tests have no statements. -/
def remarks (path : Path) (suite : Suite) : Diagnostics :=
  let empty : Diagnostics :=
    if suite.tests.isEmpty then
      [{ severity := .warning, message := "no tests found".toList, location := some (wholeFile path none) }]
    else []
  empty ++ (suite.tests.filter (·.statements.isEmpty)).map fun test =>
    { severity := .info
      message := "test ".toList ++ test.name ++ " has no statements".toList
      location := some (wholeFile path (some test.name)) }

/-- The suites of some paths, with the diagnostics. -/
structure Loaded where
  suites : List Suite
  diagnostics : Diagnostics
  deriving DecidableEq, Repr

/-- What one path yields; a directory yields nothing. -/
def loadPath (fs : FileSystem) (path : Path) : Loaded :=
  if fs.isDir path then ⟨[], []⟩
  else
    match load fs path with
    | .error e => ⟨[], [e.diagnostic path]⟩
    | .ok suite => ⟨[suite], remarks path suite⟩

/-- What all paths yield, in order, after the diagnostics that were there before. If something is wrong with a path
itself, nothing is loaded. -/
def loadAll (fs : FileSystem) (before : Diagnostics) (paths : List Path) : Except (Path × FileFault) Loaded :=
  match fs.firstPathFault? paths with
  | some fault => .error fault
  | none =>
    .ok ⟨paths.flatMap fun path => (loadPath fs path).suites,
      before ++ paths.flatMap fun path => (loadPath fs path).diagnostics⟩

end SuiteRunner.TestFile
