import SuiteRunner.Data.Schema
import SuiteRunner.Engine.Fault

/-!
What the loading of configurations takes from elsewhere: a reader of texts in YAML, and a validator of data.
-/

namespace SuiteRunner.Config

/-- Why a text gives no data. -/
inductive DataFault where
  /-- The text is not in YAML, as the message tells. -/
  | malformed (message : Text)
  /-- Reading the text fails in any other way. -/
  | raised (fault : Fault)
  deriving DecidableEq, Repr

structure Reader where
  /-- The data that a text stands for. -/
  read : Text → Except DataFault Data
  /-- What is found wrong with the front of a text before more of the text is asked for. -/
  frontFault? : Text → Option DataFault

/-- Finds the violations of a schema, in any order. -/
abbrev Validator := Schema → Data → Except Fault (List Violation)

structure Tools where
  reader : Reader
  validator : Validator

end SuiteRunner.Config
