import SuiteRunner.World.Basic

/-!
Compiling definitions. Each line defines a procedure, as in `to NAME BODY end`, or a reporter, as in
`to-report NAME report EXPRESSION end`; lines of extensions and blank lines are passed over.
-/

namespace SuiteRunner.World

/-- The procedures and the reporters of a source. -/
structure Definitions where
  procedures : Table Text := []
  reporters : Table Text := []
  deriving DecidableEq, Repr

namespace Definitions

def defines (ds : Definitions) (name : Text) : Bool :=
  ds.procedures.has name || ds.reporters.has name

/-- Adds a procedure or a reporter with these words between its name and the last word. -/
def addBody (ds : Definitions) (reports : Bool) (name : Text) (body : List Text) : Except Fault Definitions :=
  if ds.defines name then
    .error (.compiler ("There is already a procedure called ".toList ++ name.toUpper ++ ['.']))
  else if reports then
    match body with
    | head :: next :: rest =>
      if head = "report".toList then
        .ok { ds with reporters := ds.reporters.put name (Text.unwords (next :: rest)) }
      else .error (noValue name)
    | _ => .error (noValue name)
  else .ok { ds with procedures := ds.procedures.put name (Text.unwords body) }
where
  noValue (name : Text) : Fault :=
    .compiler ("Reporter procedure ".toList ++ name.toUpper ++ " does not report a value.".toList)

/-- Adds what a line defines. -/
def addLine (ds : Definitions) (line : Text) : Except Fault Definitions :=
  match line.words with
  | [] => .ok ds
  | head :: rest =>
    if head = "extensions".toList then .ok ds
    else
      let malformed : Fault := .compiler ("Malformed procedure definition: ".toList ++ line.trim)
      if head ≠ "to".toList ∧ head ≠ "to-report".toList then .error malformed
      else
        match rest with
        | name :: next :: more =>
          if (next :: more).getLast? = some "end".toList then
            ds.addBody (head == "to-report".toList) name (next :: more).dropLast
          else .error malformed
        | _ => .error malformed

/-- What the lines of a source define; the first line at fault decides the error. -/
def ofSource (source : Text) : Except Fault Definitions :=
  source.lines.foldlM addLine {}

end Definitions

/-- Replaces all procedures and reporters by those of the source, or leaves the world as it is. -/
def compile (source : Text) (w : World) : Except Fault Unit × World :=
  match Definitions.ofSource source with
  | .error fault => (.error fault, w)
  | .ok ds => (.ok (), { w with procedures := ds.procedures, reporters := ds.reporters })

end SuiteRunner.World
