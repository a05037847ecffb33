import SuiteRunner.File.Tree

/-!
Finding test files. The paths that a finder yields are in order, part by part, whatever the order of directory
entries.
-/

namespace SuiteRunner

/-- The file that holds the tests of its directory. -/
def directoryFile : Text :=
  "tests.txt".toList

def testExtension : Text :=
  ".txt".toList

inductive Finder where
  /-- The test files directly in a directory. -/
  | inDirectory
  /-- The directory files anywhere below a directory. -/
  | below
  deriving DecidableEq, Repr

namespace Finder

def name : Finder → Text
  | inDirectory => "txts_in_dir".toList
  | below => "tests_dot_txt".toList

def ofName? (t : Text) : Option Finder :=
  [inDirectory, below].find? (·.name == t)

/-- What is said of a name that no finder has. -/
def unknownMessage (name : Text) : Text :=
  "unknown finder ".toList ++ name.quoted ++ "; expected one of ['tests_dot_txt', 'txts_in_dir']".toList

end Finder

mutual

/-- The directory files in a tree, given as parts below a prefix. -/
def FileTree.directoryFiles (here : List Text) : FileTree → List (List Text)
  | .file _ => []
  | .dir entries => entriesDirectoryFiles here entries

/-- The directory files among entries and below them. -/
def entriesDirectoryFiles (here : List Text) : List (Text × FileTree) → List (List Text)
  | [] => []
  | entry :: rest => entryDirectoryFiles here entry ++ entriesDirectoryFiles here rest

/-- The directory files that an entry is or has below it. -/
def entryDirectoryFiles (here : List Text) : Text × FileTree → List (List Text)
  | (name, .file _) => if name = directoryFile then [here ++ [name]] else []
  | (name, .dir entries) => entriesDirectoryFiles (here ++ [name]) entries

end

/-- The paths in order. -/
def sortPaths (paths : List Path) : List Path :=
  paths.mergeSort Path.le

/-- The files that the finder sees from the directory, or a path that cannot be looked at. A missing directory is a
fault only where it has to be listed itself, and no directory is listed whose path is too long. -/
def FileSystem.search (fs : FileSystem) (finder : Finder) (directory : Path) :
    Except (Path × FileFault) (List Path) :=
  match finder with
  | .inDirectory =>
    match fs.entries directory with
    | .error fault => .error (directory, fault)
    | .ok entries =>
      let named := entries.filter fun entry => Path.hasExtension testExtension entry.1
      let paths := named.map fun entry => directory.child entry.1
      match fs.firstPathFault? paths with
      | some fault => .error fault
      | none => .ok (sortPaths (paths.filter fs.isFile))
  | .below =>
    match fs.find directory with
    | .error .nulInPath => .error (directory, .nulInPath)
    | .error _ => .ok []
    | .ok tree =>
      let paths := (tree.directoryFiles []).map fun parts => { directory with parts := directory.parts ++ parts }
      .ok (sortPaths (paths.filter (! ·.parent.isTooLong)))

end SuiteRunner
