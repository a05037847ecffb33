import SuiteRunner.Text.Quoted
import SuiteRunner.Text.UpperCase
import SuiteRunner.Statement.Basic

/-!
Statements as records: the name of the kind and every field with its value. This is the form in which the log
shows them.
-/

namespace SuiteRunner

/-- The agent in its record form. -/
def Agent.record (agent : Agent) : Text :=
  "<AgentKind.".toList ++ Text.toUpper agent.name ++ ": ".toList ++ Text.quoted [agent.code] ++ ['>']

namespace Statement

/-- The fields of the statement, in order. -/
def fields : Statement → List (Text × Text)
  | openModel path => [("path".toList, path.quoted)]
  | definition source => [("source".toList, source.quoted)]
  | command agent text expected =>
    ("agent".toList, agent.record) :: ("text".toList, text.quoted) ::
      match expected with
      | .success => []
      | .error message | .compileError message => [("message".toList, message.quoted)]
      | .stackTrace trace => [("trace".toList, trace.quoted)]
  | expression text expected =>
    ("text".toList, text.quoted) ::
      match expected with
      | .result value => [("expected".toList, value.quoted)]
      | .error message => [("message".toList, message.quoted)]
      | .stackTrace trace => [("trace".toList, trace.quoted)]

/-- The name of the kind of statement. -/
def kind : Statement → Text
  | openModel _ => "OpenModel".toList
  | definition _ => "Definition".toList
  | command _ _ .success => "Command".toList
  | command _ _ (.error _) => "CommandExpectingError".toList
  | command _ _ (.compileError _) => "CommandExpectingCompileError".toList
  | command _ _ (.stackTrace _) => "CommandExpectingStackTrace".toList
  | expression _ (.result _) => "ExpressionExpectingResult".toList
  | expression _ (.error _) => "ExpressionExpectingError".toList
  | expression _ (.stackTrace _) => "ExpressionExpectingStackTrace".toList

def record (statement : Statement) : Text :=
  statement.kind ++ '(' ::
    List.intercalate ", ".toList (statement.fields.map fun (name, value) => name ++ '=' :: value) ++ [')']

end Statement

end SuiteRunner
