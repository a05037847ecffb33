import SuiteRunner.Config.Tools
import SuiteRunner.Yaml.Document

/-!
A reader of texts in YAML, for maps and lists in block and flow style and scalars that are plain or quoted.
-/

namespace SuiteRunner.Yaml

/-- Of a text that is not in YAML nothing more is said. -/
def Fault.toDataFault : Fault → Config.DataFault
  | scalar fault => .raised fault.failure
  | malformed | endOfText => .malformed "not the text of one document".toList

/-- Texts are read in blocks, so that of the front of a text only whole blocks are known. -/
def reader : Config.Reader where
  read t := (load t true).mapError Fault.toDataFault
  frontFault? t :=
    match load (readBefore t.length t) false with
    | .ok _ | .error .endOfText => none
    | .error fault => some fault.toDataFault

end SuiteRunner.Yaml
