import SuiteRunner.CommandLine.Options
import SuiteRunner.Config.Factory
import SuiteRunner.Config.Load
import SuiteRunner.Run.Session
import SuiteRunner.TestFile.Load

/-!
The command line: it loads a configuration and the test files it names, and lists the tests or runs them. The
exit code is 2 if there is nothing to run with, 1 if a file or a run failed, and else 0.
-/

namespace SuiteRunner.CommandLine

/-- An engine with its first state. -/
structure AnyEngine where
  {State : Type}
  engine : Engine State
  initial : State

/-- What is printed, and the exit code. -/
structure Output where
  exit : Nat
  stdout : Text
  stderr : Text
  deriving DecidableEq, Repr

/-- What becomes of a call. Usage texts, files and directories that cannot be read, and faults that end the loading of
the configuration or the session come to no output. -/
inductive Outcome where
  | printed (output : Output)
  | usage (exit : Nat)
  | unreadable (path : Path) (fault : ReadFault)
  | raised (fault : Fault)
  /-- The data of the configuration cannot be taken apart. -/
  | unfit
  deriving DecidableEq, Repr

/-- The lines, each with its end. -/
def endLines (lines : List Text) : Text :=
  lines.flatMap (· ++ ['\n'])

/-- The lowest level that is logged. -/
def logLevel (verbosity : Nat) : LogLevel :=
  match verbosity with
  | 0 => .warning
  | 1 => .info
  | _ => .debug

/-- The log as it is printed. -/
def logText (level : LogLevel) (log : Log) : Text :=
  endLines ((log.atLeast level).map fun record =>
    record.level.name ++ " langtest.runner.dispatcher: ".toList ++ record.message)

/-- What is said of the files before anything else is done. -/
def preamble (env : Environment) (loaded : TestFile.Loaded) : List Text :=
  let tests := loaded.suites.foldl (fun count suite => count + suite.tests.length) 0
  let counts := Text.ofNat tests ++ " tests from ".toList ++ Text.ofNat loaded.suites.length ++ " suites (".toList ++
    Text.ofNat (loaded.diagnostics.count .error) ++ " errors, ".toList ++
    Text.ofNat (loaded.diagnostics.count .warning) ++ " warnings)".toList
  ["Environment: ".toList ++ env.describe, "Parsed ".toList ++ counts] ++
    (if loaded.diagnostics.isEmpty then [] else [loaded.diagnostics.text]) ++ [[]]

/-- A line for each test; those that do not apply are marked. -/
def listing (env : Environment) (suites : List Suite) : List Text :=
  (suites.flatMap (·.tests)).map fun test =>
    (if test.applies env then ' ' else '-') :: ' ' :: test.fullName

/-- A verdict and how often it came. -/
def countLine (name : Text) (count : Nat) : Text :=
  "  ".toList ++ name.padRight 30 ++ ' ' :: (Text.ofNat count).padLeft 5

def rule : Text :=
  List.replicate 70 '='

def summary (report : Report) : List Text :=
  [rule, "RUN SUMMARY".toList, rule, "\nTotal runs: ".toList ++ Text.ofNat report.length,
    countLine "passed".toList report.passedCount, countLine "failed".toList report.failedCount,
    countLine "skipped".toList report.skippedCount, []]

/-- The failures in full, if there are any. -/
def failureLines (report : Report) : List Text :=
  if report.ok then []
  else
    ["FAILURES:".toList] ++
      (report.failures.map fun result => "  ".toList ++ Char.ofNat 0x2717 :: ' ' :: result.text) ++ [[]]

def errorLine (message : Text) : Text :=
  endLines ["ERROR: ".toList ++ message]

/-- Runs the tests that the options select, after the given lines. -/
def runTests (options : Options) (env : Environment) (loaded : TestFile.Loaded) (before : List Text)
    (found : AnyEngine) : Outcome :=
  let session := found.engine.runSuites env options.only loaded.suites found.initial
  match session.value with
  | .error fault => .raised fault
  | .ok report =>
    let failed := loaded.diagnostics.hasErrors || ! report.ok
    .printed
      { exit := if failed then 1 else 0
        stdout := endLines (before ++ failureLines report ++ summary report ++
          [if failed then "Run FAILED.".toList else "Run PASSED.".toList])
        stderr := logText (logLevel options.verbosity) session.log }

/-- Lists or runs what has been loaded. An engine is looked for only to run. -/
def proceed (catalogue : Catalogue AnyEngine) (options : Options) (config : Config) (loaded : TestFile.Loaded) :
    Outcome :=
  let before := preamble config.environment loaded
  if options.list then
    .printed
      { exit := if loaded.diagnostics.hasErrors then 1 else 0
        stdout := endLines (before ++ listing config.environment loaded.suites)
        stderr := [] }
  else
    match catalogue.resolve config.runtime with
    | .error e => .printed ⟨2, endLines before, errorLine e.message⟩
    | .ok found => runTests options config.environment loaded before found

/-- Does what the options ask for. -/
def perform (tools : Config.Tools) (fs : FileSystem) (catalogue : Catalogue AnyEngine) (options : Options) : Outcome :=
  let path := Path.ofText options.config
  match Config.load tools fs path with
  | .error (.refused e) => .printed ⟨2, [], errorLine e.message⟩
  | .error (.unreadable path fault) => .unreadable path fault
  | .error (.raised fault) => .raised fault
  | .error .unfit => .unfit
  | .ok config =>
    match (config.testFiles fs).bind fun paths => TestFile.loadAll fs [] paths.flatten with
    | .error (path, fault) => .unreadable path (.file fault)
    | .ok loaded => proceed catalogue options config loaded

/-- Does what the arguments ask for. -/
def call (tools : Config.Tools) (fs : FileSystem) (catalogue : Catalogue AnyEngine) (arguments : List Text) : Outcome :=
  match Request.read arguments with
  | .help => .usage 0
  | .misuse => .usage 2
  | .run options => perform tools fs catalogue options

end SuiteRunner.CommandLine
