import SuiteRunner.Text.Basic

/-!
Stack traces on one line: a line feed is written as a backslash and the letter n. Nothing else is escaped, so
a trace that holds this pair itself does not read back.
-/

namespace SuiteRunner.Trace

/-- Every line feed becomes the escape. -/
def encode : Text → Text
  | [] => []
  | c :: rest => if c = '\n' then '\\' :: 'n' :: encode rest else c :: encode rest

/-- Every escape becomes a line feed. -/
def decode : Text → Text
  | [] => []
  | '\\' :: 'n' :: rest => '\n' :: decode rest
  | c :: rest => c :: decode rest

end SuiteRunner.Trace
