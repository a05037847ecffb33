import SuiteRunner.File.Path
import SuiteRunner.Text.Newline
import SuiteRunner.Text.Utf8

/-!
Trees of directories and regular files, and reading from them. Entries of other kinds, such as pipes and links, do not
occur, and nothing is withheld for want of permissions.
-/

namespace SuiteRunner

/-- A directory lists its entries in no particular order. -/
inductive FileTree where
  | file (octets : List UInt8)
  | dir (entries : List (Text × FileTree))

/-- Why a path cannot be used. -/
inductive FileFault where
  | notFound
  | notDirectory
  | isDirectory
  /-- The path, or a name in it, is longer than the system admits. -/
  | tooLong
  /-- The path holds the character with code zero. -/
  | nulInPath
  deriving DecidableEq, Repr

/-- Names have at most so many octets. -/
def maxNameLength : Nat := 255

/-- Paths have at most so many octets. -/
def maxPathLength : Nat := 4095

/-- Whether the path as a whole has more octets than the system admits. -/
def Path.isTooLong (p : Path) : Bool :=
  decide (maxPathLength < p.text.octetCount)

/-- Whether the fault lies in the path itself and not in what is there. -/
def FileFault.isOfPath : FileFault → Bool
  | tooLong | nulInPath => true
  | notFound | notDirectory | isDirectory => false

/-- The number and the wording that the system has for the fault, and the path. It never gets to see a path with
the character with code zero. -/
def FileFault.message (path : Path) : FileFault → Text
  | notFound => "[Errno 2] No such file or directory: ".toList ++ path.text.quoted
  | notDirectory => "[Errno 20] Not a directory: ".toList ++ path.text.quoted
  | isDirectory => "[Errno 21] Is a directory: ".toList ++ path.text.quoted
  | tooLong => "[Errno 36] File name too long: ".toList ++ path.text.quoted
  | nulInPath => "embedded null byte".toList

namespace FileTree

def isDir : FileTree → Bool
  | file _ => false
  | dir _ => true

/-- What the parts lead to. The directories passed on the way in are kept, nearest first, for double dots; above
the topmost directory there is only itself. -/
def walk : List FileTree → FileTree → List Text → Except FileFault FileTree
  | _, tree, [] => .ok tree
  | _, file _, _ :: _ => .error .notDirectory
  | above, dir entries, part :: rest =>
    if part = ['.', '.'] then
      match above with
      | [] => walk [] (dir entries) rest
      | nearest :: others => walk others nearest rest
    else if maxNameLength < part.octetCount then .error .tooLong
    else
      match entries.lookup part with
      | none => .error .notFound
      | some tree => walk (dir entries :: above) tree rest

/-- Puts a tree where the parts lead to, with the directories above it. What is put into the place of a directory
replaces it, but an empty directory leaves it as it is. -/
def place (leaf : FileTree) : List Text → FileTree → FileTree
  | [], tree =>
    match leaf with
    | dir [] => if tree.isDir then tree else leaf
    | _ => leaf
  | part :: rest, tree =>
    let entries := match tree with
      | dir entries => entries
      | file _ => []
    match entries.lookup part with
    | some old =>
      dir (entries.map fun entry => if entry.1 = part then (part, place leaf rest old) else entry)
    | none => dir (entries ++ [(part, place leaf rest (dir []))])

end FileTree

/-- All files, and the directory from which relative paths start. -/
structure FileSystem where
  root : FileTree
  workingDirectory : List Text

/-- Why the text of a file cannot be had. -/
inductive ReadFault where
  | file (fault : FileFault)
  | encoding (fault : Utf8.Fault)
  deriving DecidableEq, Repr

def ReadFault.message (path : Path) : ReadFault → Text
  | file fault => fault.message path
  | encoding fault => fault.message

namespace FileSystem

/-- The parts of the path from the topmost directory. -/
def absoluteParts (fs : FileSystem) (p : Path) : List Text :=
  if p.isAbsolute then p.parts else fs.workingDirectory ++ p.parts

/-- The absolute path without double dots, with one slash at its front. -/
def resolve (fs : FileSystem) (p : Path) : Path :=
  ⟨['/'], Path.withoutDots (fs.absoluteParts p)⟩

/-- What is at the path. -/
def find (fs : FileSystem) (p : Path) : Except FileFault FileTree :=
  if p.hasNul then .error .nulInPath
  else if p.isTooLong then .error .tooLong
  else fs.root.walk [] (fs.absoluteParts p)

/-- What is wrong with the path itself. -/
def pathFault? (fs : FileSystem) (p : Path) : Option FileFault :=
  match fs.find p with
  | .error fault => if fault.isOfPath then some fault else none
  | .ok _ => none

/-- The first of the paths with which something is wrong. -/
def firstPathFault? (fs : FileSystem) (paths : List Path) : Option (Path × FileFault) :=
  paths.findSome? fun path => (fs.pathFault? path).map (path, ·)

def isDir (fs : FileSystem) (p : Path) : Bool :=
  match fs.find p with
  | .ok tree => tree.isDir
  | .error _ => false

def isFile (fs : FileSystem) (p : Path) : Bool :=
  match fs.find p with
  | .ok tree => ! tree.isDir
  | .error _ => false

/-- The content of a file. -/
def octets (fs : FileSystem) (p : Path) : Except FileFault (List UInt8) :=
  match fs.find p with
  | .error fault => .error fault
  | .ok (.dir _) => .error .isDirectory
  | .ok (.file octets) => .ok octets

/-- The entries of a directory. -/
def entries (fs : FileSystem) (p : Path) : Except FileFault (List (Text × FileTree)) :=
  match fs.find p with
  | .error fault => .error fault
  | .ok (.file _) => .error .notDirectory
  | .ok (.dir entries) => .ok entries

/-- The text of a file in UTF-8, with uniform line ends. -/
def readText (fs : FileSystem) (p : Path) : Except ReadFault Text :=
  match fs.octets p with
  | .error fault => .error (.file fault)
  | .ok octets =>
    match Utf8.decode octets with
    | .error fault => .error (.encoding fault)
    | .ok t => .ok t.uniformNewlines

end FileSystem

end SuiteRunner
