import SuiteRunner.CommandLine.Engines

/-!
The program. It takes a picture of the files that the command line is about, hands it over and prints what comes
of it.
-/

namespace SuiteRunner.CommandLine

/-- A place in the system's directories. -/
def entryAt (parts : List Text) : IO.FS.DirEntry :=
  ⟨"/", String.ofList (List.intercalate ['/'] parts)⟩

/-- The tree at a place. Of files only those that can hold tests are read. -/
partial def pictureOf (parts : List Text) : IO (Option FileTree) := do
  let entry := entryAt parts
  if ← entry.path.isDir then
    let mut entries := []
    for below in ← entry.path.readDir do
      let name := below.fileName.toList
      match ← pictureOf (parts ++ [name]) with
      | some tree => entries := (name, tree) :: entries
      | none => pure ()
    return some (.dir entries)
  else if ← entry.path.pathExists then
    if Path.hasExtension testExtension (parts.getLast?.getD []) then
      return some (.file (← IO.FS.readBinFile entry.path).toList)
    else return some (.file [])
  else return none

/-- Adds the tree at the path, if there is any. -/
def addPicture (fs : FileSystem) (path : Path) : IO FileSystem := do
  match ← pictureOf (fs.resolve path).parts with
  | some tree => return { fs with root := FileTree.place tree (fs.resolve path).parts fs.root }
  | none => return fs

/-- Adds one file with its content, or what stands in its place. -/
def addFile (fs : FileSystem) (path : Path) : IO FileSystem := do
  let parts := (fs.resolve path).parts
  let entry := entryAt parts
  if ← entry.path.isDir then return { fs with root := FileTree.place (.dir []) parts fs.root }
  else if ← entry.path.pathExists then
    return { fs with root := FileTree.place (.file (← IO.FS.readBinFile entry.path).toList) parts fs.root }
  else return fs

def printOutcome : Outcome → IO UInt32
  | .printed output => do
    IO.print (String.ofList output.stdout)
    IO.eprint (String.ofList output.stderr)
    return output.exit.toUInt32
  | .usage exit => do
    IO.eprintln "usage: CONFIG [--only NAME] [--list] [-v | --verbose] [-h | --help]"
    return exit.toUInt32
  | .unreadable path fault => do
    IO.eprintln (String.ofList (fault.message path))
    return 1
  | .raised fault => do
    IO.eprintln (String.ofList (fault.describe.toOption.getD []))
    return 1
  | .unfit => return 1

/-- Runs the command line with these arguments in the working directory. -/
def runProgram (arguments : List Text) : IO UInt32 := do
  let here := Path.ofText (← IO.currentDir).toString.toList
  let empty : FileSystem := ⟨FileTree.place (.dir []) here.parts (.dir []), here.parts⟩
  match configPath? arguments with
  | none => printOutcome (call tools empty engines arguments)
  | some path =>
    let known ← addFile empty path
    let fs ← (directories known path).foldlM addPicture known
    printOutcome (call tools fs engines arguments)

end SuiteRunner.CommandLine

def main (arguments : List String) : IO UInt32 :=
  SuiteRunner.CommandLine.runProgram (arguments.map String.toList)
