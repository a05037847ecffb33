import SuiteRunner.Text.Basic

/-!
Line ends of files: a carriage return, with or without a line feed after it, is read as one line feed.
-/

namespace SuiteRunner.Text

/-- Every line end becomes one line feed. -/
def uniformNewlines : Text → Text
  | [] => []
  | '\r' :: '\n' :: rest => '\n' :: uniformNewlines rest
  | c :: rest => (if c = '\r' then '\n' else c) :: uniformNewlines rest

end SuiteRunner.Text
