import SuiteRunner.Config.Basic

/-!
Loading a run configuration from a file.
-/

namespace SuiteRunner.Config

/-- The file is read in pieces of so many octets. -/
def pieceLength : Nat := 8192

/-- A text that gives no data is refused if it is not in YAML. -/
def DataFault.toLoadError (path : Path) : DataFault → LoadError
  | malformed message => .refused (.notYaml path message)
  | raised fault => .raised fault

/-- The data in a file. A fault of the encoding shows only when reading gets there. -/
def dataOf (reader : Reader) (path : Path) (octets : List UInt8) : Except LoadError Data :=
  let (decoded, fault) := Utf8.decodePieces pieceLength octets
  let t := decoded.uniformNewlines
  match fault with
  | none => (reader.read t).mapError (DataFault.toLoadError path)
  | some fault =>
    match reader.frontFault? t with
    | some found => .error (found.toLoadError path)
    | none => .error (.unreadable path (.encoding fault))

/-- The configuration in a file. The paths in it are relative to the directory of the file. -/
def load (tools : Tools) (fs : FileSystem) (path : Path) : Except LoadError Config :=
  match fs.octets path with
  | .error .notFound => .error (.refused (.fileNotFound path))
  | .error fault => .error (.unreadable path (.file fault))
  | .ok octets => (dataOf tools.reader path octets).bind (ofData tools.validator fs path.parent)

end SuiteRunner.Config
