import SuiteRunner.Data.Schema
import SuiteRunner.File.Finder
import SuiteRunner.Text.Digit
import SuiteRunner.Text.WordCharacter

/-!
What is demanded of a run configuration.
-/

namespace SuiteRunner.Config

/-- Decimal digits, at least one. -/
def isDigits (t : Text) : Bool :=
  ! t.isEmpty && t.all isDecimalDigit

/-- A name that starts as names do and goes on with characters of the class. -/
def isNameOf (inside : Char → Bool) : Text → Bool
  | [] => false
  | c :: rest => isNameStart c && rest.all inside

/-- Digits on either side of a full stop. -/
def isVersion (t : Text) : Bool :=
  let (major, minor) := t.cutAt '.'
  t.contains '.' && isDigits major && isDigits minor

/-- The dotted name of a module, a colon and a name in it. -/
def isRuntimeName (t : Text) : Bool :=
  let (moduleName, member) := t.cutAt ':'
  t.contains ':' && isNameOf (fun c => isWordCharacter c || c == '.') moduleName &&
    isNameOf isWordCharacter member

/-- The form of a version; a line feed may follow. -/
def versionPattern : Pattern :=
  ⟨"^\\d+\\.\\d+$".toList, fun t => isVersion t.dropFinalNewline⟩

/-- The form of the name of an engine's factory; a line feed may follow. -/
def runtimePattern : Pattern :=
  ⟨"^[A-Za-z_][\\w.]*:[A-Za-z_]\\w*$".toList, fun t => isRuntimeName t.dropFinalNewline⟩

def environmentSchema : Schema :=
  [.kind .object,
    .closed ["is_3d".toList, "uses_code_generator".toList],
    .properties
      [("is_3d".toList, [.kind .boolean]),
       ("uses_code_generator".toList, [.kind .boolean])]]

def suiteSchema : Schema :=
  [.kind .object,
    .required ["finder".toList, "path".toList],
    .closed ["finder".toList, "path".toList],
    .properties
      [("finder".toList, [.oneOf [Finder.inDirectory.name, Finder.below.name]]),
       ("path".toList, [.kind .string, .nonempty .string])]]

/-- The schema of a run configuration. -/
def schema : Schema :=
  [.kind .object,
    .required ["version".toList, "runtime".toList, "suites".toList],
    .closed ["version".toList, "runtime".toList, "environment".toList, "suites".toList],
    .properties
      [("version".toList, [.kind .string, .pattern versionPattern]),
       ("runtime".toList, [.kind .string, .pattern runtimePattern]),
       ("environment".toList, environmentSchema),
       ("suites".toList, [.kind .array, .nonempty .array, .items suiteSchema])]]

end SuiteRunner.Config
