import SuiteRunner.Agent
import SuiteRunner.Statement.Trace

/-!
The statements of a test and the line in which each is written.
-/

namespace SuiteRunner

/-- What a command is expected to lead to. -/
inductive CommandOutcome where
  | success
  | error (message : Text)
  | compileError (message : Text)
  | stackTrace (trace : Text)
  deriving DecidableEq, Repr

/-- What an expression is expected to lead to. -/
inductive ExpressionOutcome where
  | result (value : Text)
  | error (message : Text)
  | stackTrace (trace : Text)
  deriving DecidableEq, Repr

inductive Statement where
  /-- Loads a model into the engine. -/
  | openModel (path : Text)
  /-- A procedure, or a line of extensions. -/
  | definition (source : Text)
  | command (agent : Agent) (text : Text) (expected : CommandOutcome)
  | expression (text : Text) (expected : ExpressionOutcome)
  deriving DecidableEq, Repr

/-- The words that announce an expected failure. -/
inductive Keyword where
  | error
  | compilerError
  | stackTrace
  deriving DecidableEq, Repr

def Keyword.text : Keyword → Text
  | error => "ERROR".toList
  | compilerError => "COMPILER ERROR".toList
  | stackTrace => "STACKTRACE".toList

/-- The keyword, a space and what follows it. -/
def Keyword.write (keyword : Keyword) (payload : Text) : Text :=
  keyword.text ++ ' ' :: payload

/-- What stands between a text and its expected outcome. -/
def arrow : Text :=
  " => ".toList

/-- What is written after the command; a success is not written. -/
def CommandOutcome.source : CommandOutcome → Text
  | success => []
  | error message => arrow ++ Keyword.error.write message
  | compileError message => arrow ++ Keyword.compilerError.write message
  | stackTrace trace => arrow ++ Keyword.stackTrace.write (Trace.encode trace)

/-- What is written after the expression. -/
def ExpressionOutcome.source : ExpressionOutcome → Text
  | result value => arrow ++ value
  | error message => arrow ++ Keyword.error.write message
  | stackTrace trace => arrow ++ Keyword.stackTrace.write (Trace.encode trace)

namespace Statement

def isDefinition : Statement → Bool
  | definition _ => true
  | _ => false

/-- The line in which the statement is written. -/
def source : Statement → Text
  | openModel path => "OPEN> ".toList ++ path
  | definition source => source
  | command agent text expected => agent.code :: "> ".toList ++ text ++ expected.source
  | expression text expected => text ++ expected.source

end Statement

end SuiteRunner
