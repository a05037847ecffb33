import SuiteRunner.Text.Basic

/-!
The log of a session.
-/

namespace SuiteRunner

inductive LogLevel where
  | debug
  | info
  | warning
  deriving DecidableEq, Repr

namespace LogLevel

def name : LogLevel → Text
  | debug => "DEBUG".toList
  | info => "INFO".toList
  | warning => "WARNING".toList

def rank : LogLevel → Nat
  | debug => 0
  | info => 1
  | warning => 2

end LogLevel

structure LogRecord where
  level : LogLevel
  message : Text
  deriving DecidableEq, Repr

/-- The records in the order in which they were made. -/
abbrev Log := List LogRecord

/-- The records at the given level and above. -/
def Log.atLeast (level : LogLevel) (log : Log) : Log :=
  log.filter fun record => level.rank ≤ record.level.rank

end SuiteRunner
