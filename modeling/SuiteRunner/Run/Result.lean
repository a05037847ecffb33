import SuiteRunner.Mode
import SuiteRunner.Text.Basic

/-!
The results of running tests, and the report that collects them.
-/

namespace SuiteRunner

/-- Why a run stopped. -/
inductive FailureCause where
  /-- The outcome differs from the expected one. -/
  | mismatch (expected actual : Text)
  /-- A fault came where none was expected. -/
  | unexpected (actual : Text)
  deriving DecidableEq, Repr

namespace FailureCause

def kind : FailureCause → Text
  | mismatch _ _ => "mismatch".toList
  | unexpected _ => "unexpected error".toList

def expected? : FailureCause → Option Text
  | mismatch expected _ => some expected
  | unexpected _ => none

def actual : FailureCause → Text
  | mismatch _ actual => actual
  | unexpected actual => actual

end FailureCause

/-- Where and why a run stopped. The statements that are performed count from one; zero stands for what is
done before the first and after the last. -/
structure Failure where
  index : Nat
  source : Text
  cause : FailureCause
  deriving DecidableEq, Repr

def Failure.text (failure : Failure) : Text :=
  let place :=
    if failure.index = 0 then failure.source
    else "statement ".toList ++ Text.ofNat failure.index ++ ": ".toList ++ failure.source
  let expected := match failure.cause.expected? with
    | none => []
    | some expected => ["  expected: ".toList ++ expected]
  Text.unlines
    ([failure.cause.kind ++ " at ".toList ++ place] ++ expected ++ ["  actual:   ".toList ++ failure.cause.actual])

inductive Verdict where
  | passed
  | failed (failure : Failure)
  | skipped
  deriving DecidableEq, Repr

/-- What became of one test in one mode. -/
structure RunResult where
  test : Text
  mode : Mode
  verdict : Verdict
  deriving DecidableEq, Repr

namespace Verdict

def name : Verdict → Text
  | passed => "passed".toList
  | failed _ => "failed".toList
  | skipped => "skipped".toList

def failure? : Verdict → Option Failure
  | failed failure => some failure
  | _ => none

def isFailed (verdict : Verdict) : Bool :=
  verdict.failure?.isSome

def isPassed (verdict : Verdict) : Bool :=
  verdict == passed

def isSkipped (verdict : Verdict) : Bool :=
  verdict == skipped

end Verdict

/-- The name of the test and its mode, as headings show them. -/
def runTitle (test : Text) (mode : Mode) : Text :=
  test ++ " [".toList ++ mode.text ++ [']']

def RunResult.text (result : RunResult) : Text :=
  let title := runTitle result.test result.mode ++ ' ' :: result.verdict.name
  match result.verdict.failure? with
  | none => title
  | some failure => title ++ '\n' :: failure.text

/-- The results of a session, in the order of the runs. -/
abbrev Report := List RunResult

namespace Report

def failures (report : Report) : List RunResult :=
  report.filter (·.verdict.isFailed)

def passedCount (report : Report) : Nat :=
  report.countP (·.verdict.isPassed)

def failedCount (report : Report) : Nat :=
  report.countP (·.verdict.isFailed)

def skippedCount (report : Report) : Nat :=
  report.countP (·.verdict.isSkipped)

/-- Whether no run failed. -/
def ok (report : Report) : Bool :=
  report.failures.isEmpty

end Report

end SuiteRunner
