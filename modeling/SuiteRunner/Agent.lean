import SuiteRunner.Text.Basic

/-!
The kinds of agent on whose behalf a command runs.
-/

namespace SuiteRunner

inductive Agent where
  | observer
  | turtle
  | patch
  | link
  deriving DecidableEq, Repr

namespace Agent

/-- The letter that stands for the kind in a test file. -/
def code : Agent → Char
  | observer => 'O'
  | turtle => 'T'
  | patch => 'P'
  | link => 'L'

def name : Agent → Text
  | observer => "observer".toList
  | turtle => "turtle".toList
  | patch => "patch".toList
  | link => "link".toList

def ofCode? : Char → Option Agent
  | 'O' => some observer
  | 'T' => some turtle
  | 'P' => some patch
  | 'L' => some link
  | _ => none

/-- The kind whose letter is the whole text. -/
def ofText? : Text → Option Agent
  | [c] => ofCode? c
  | _ => none

theorem ofCode?_code (agent : Agent) : ofCode? agent.code = some agent := by
  cases agent <;> rfl

end Agent

end SuiteRunner
