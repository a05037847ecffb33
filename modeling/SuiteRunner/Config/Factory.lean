import SuiteRunner.Text.Quoted

/-!
Finding the factory of an engine by its dotted name. What can be imported is given by a catalogue of modules.
-/

universe u

namespace SuiteRunner

/-- Something that a module holds under a name; it can be called if it is a factory. -/
structure Member (φ : Type u) where
  name : Text
  factory : Option φ

/-- A module with its members. Nothing can lie below a module that is no package. -/
structure Module (φ : Type u) where
  name : Text
  isPackage : Bool := false
  members : List (Member φ) := []

abbrev Catalogue (φ : Type u) := List (Module φ)

/-- Why a dotted name leads to no factory. -/
inductive FactoryError where
  /-- The name has not two parts around a colon. -/
  | malformed (dotted : Text)
  /-- The module's name starts with a dot, and there is no package to take it relative to. -/
  | relative (moduleName : Text)
  /-- The module, or one above it, is missing. -/
  | noModule (moduleName missing : Text) (parent : Option Text)
  | noMember (moduleName member : Text)
  | notCallable (dotted : Text)
  deriving DecidableEq, Repr

def FactoryError.message : FactoryError → Text
  | malformed dotted => "runtime must look like 'package.module:factory', got ".toList ++ dotted.quoted
  | relative moduleName =>
    "the 'package' argument is required to perform a relative import for ".toList ++ moduleName.quoted
  | noModule moduleName missing parent =>
    "cannot import runtime module ".toList ++ moduleName.quoted ++ ": No module named ".toList ++ missing.quoted ++
      match parent with
      | none => []
      | some parent => "; ".toList ++ parent.quoted ++ " is not a package".toList
  | noMember moduleName member =>
    "module ".toList ++ moduleName.quoted ++ " has no attribute ".toList ++ member.quoted
  | notCallable dotted => "runtime factory ".toList ++ dotted.quoted ++ " is not callable".toList

namespace Catalogue

variable {φ : Type u}

/-- Goes down the parts of a dotted name below the module reached so far, and stops at the first part that is
missing: the name of that part, and of the module above it if that is no package. -/
def descend (catalogue : Catalogue φ) :
    Option (Module φ) → List Text → Except (Text × Option Text) (Option (Module φ))
  | reached, [] => .ok reached
  | reached, part :: rest =>
    let full := match reached with
      | none => part
      | some above => above.name ++ '.' :: part
    let blocked := reached.bind fun above => if above.isPackage then none else some above.name
    match blocked with
    | some above => .error (full, some above)
    | none =>
      match catalogue.find? (·.name == full) with
      | none => .error (full, none)
      | some next => descend catalogue (some next) rest

/-- The factory of a dotted name: a module, a colon and a member of the module. -/
def resolve (catalogue : Catalogue φ) (dotted : Text) : Except FactoryError φ :=
  let (moduleName, member) := dotted.cutAt ':'
  if moduleName.isEmpty || member.isEmpty then .error (.malformed dotted)
  else if moduleName.head? = some '.' then .error (.relative moduleName)
  else
    match catalogue.descend none (moduleName.splitOn '.') with
    | .error (missing, parent) => .error (.noModule moduleName missing parent)
    | .ok none => .error (.noModule moduleName moduleName none)
    | .ok (some found) =>
      match found.members.find? (·.name == member) with
      | none => .error (.noMember moduleName member)
      | some entry =>
        match entry.factory with
        | none => .error (.notCallable dotted)
        | some factory => .ok factory

end Catalogue

end SuiteRunner
