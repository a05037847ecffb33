import SuiteRunner.Text.Basic

/-!
Paths of files. Empty parts and single dots are no parts of a path; double dots are.
-/

namespace SuiteRunner

/-- The slashes at the front, if the path is absolute, and the names between slashes. -/
structure Path where
  root : Text := []
  parts : List Text
  deriving DecidableEq, Repr

namespace Path

/-- Two slashes at the front are kept, any other number of them counts as one. -/
def rootOf : Text → Text
  | '/' :: '/' :: '/' :: _ => ['/']
  | '/' :: '/' :: _ => ['/', '/']
  | '/' :: _ => ['/']
  | _ => []

def isPart (t : Text) : Bool :=
  ! t.isEmpty && t != ['.']

def ofText (t : Text) : Path :=
  ⟨rootOf t, (t.splitOn '/').filter isPart⟩

/-- The path in writing; the empty relative path is a dot. -/
def text (p : Path) : Text :=
  if p.root.isEmpty && p.parts.isEmpty then ['.']
  else p.root ++ List.intercalate ['/'] p.parts

/-- Whether the path holds the character with code zero, by which the system ends paths. -/
def hasNul (p : Path) : Bool :=
  p.parts.any fun part => part.contains (Char.ofNat 0)

def isAbsolute (p : Path) : Bool :=
  ! p.root.isEmpty

/-- The last part, or nothing. -/
def name (p : Path) : Text :=
  p.parts.getLast?.getD []

def parent (p : Path) : Path :=
  { p with parts := p.parts.dropLast }

/-- The path of a file in the directory. -/
def child (p : Path) (name : Text) : Path :=
  { p with parts := p.parts ++ [name] }

/-- The second path as seen from the first; an absolute one stays itself. -/
def join (base p : Path) : Path :=
  if p.isAbsolute then p else { base with parts := base.parts ++ p.parts }

/-- Lets every double dot take back the part before it. -/
def withoutDots (parts : List Text) : List Text :=
  parts.foldl (fun done part => if part = ['.', '.'] then done.dropLast else done ++ [part]) []

/-- Paths are ordered part by part. -/
def le (p q : Path) : Bool :=
  Text.listLe p.parts q.parts

/-- Whether a file name ends in the extension and has something in front of it. -/
def hasExtension (extension name : Text) : Bool :=
  extension.isSuffixOf name && name.length != extension.length

end Path

end SuiteRunner
