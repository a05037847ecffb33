import SuiteRunner.Statement.Basic
import SuiteRunner.Text.Quoted

/-!
The failures that an engine raises, what can be read of them, and how a report describes them. A part of a failure
may be such that reading it fails in turn.
-/

namespace SuiteRunner

/-- What is read of a failure. -/
inductive FaultPart where
  /-- What the failure carries for its reader: a message, or the two texts of a mismatch. -/
  | message
  | trace
  /-- What the failure is printed as. -/
  | text
  deriving DecidableEq, Repr

inductive Fault where
  /-- A command or an expression failed while it ran. -/
  | execution (message trace : Text)
  /-- Source was turned down before it could run. -/
  | compiler (message : Text)
  /-- A model could not be loaded. -/
  | modelLoad (message : Text) (path : Option Text)
  /-- Some other failure of the engine's own. -/
  | general (message : Text)
  /-- Two texts should agree and do not. -/
  | mismatch (expected actual : Text)
  /-- There is nothing more to go through: the name of the failure's kind and its text. -/
  | exhausted (kind text : Text)
  /-- A failure of any other kind: the name of its kind and its text. -/
  | foreign (kind text : Text)
  /-- The failure, but reading this part of it fails as told by `raised`. -/
  | unreadable (fault : Fault) (part : FaultPart) (raised : Fault)
  deriving DecidableEq, Repr

/-- The part of a failure that the keyword announces. -/
def Keyword.part : Keyword → FaultPart
  | stackTrace => .trace
  | _ => .message

namespace Fault

/-- What reading `wanted` comes to where one part cannot be read. -/
def readExcept {α : Type} (part : FaultPart) (raised : Fault) (wanted : FaultPart) (reading : Except Fault α) :
    Except Fault α :=
  if part = wanted then .error raised else reading

/-- The text that a keyword announces; there is none for a failure of another class. -/
def announced (keyword : Keyword) : Fault → Option (Except Fault Text)
  | execution message trace =>
    match keyword with
    | .error => some (.ok message)
    | .stackTrace => some (.ok trace)
    | .compilerError => none
  | compiler message => if keyword = .compilerError then some (.ok message) else none
  | unreadable fault part raised => (fault.announced keyword).map (readExcept part raised keyword.part)
  | _ => none

/-- The expected and the actual text of a mismatch. -/
def mismatched : Fault → Option (Except Fault (Text × Text))
  | mismatch expected actual => some (.ok (expected, actual))
  | unreadable fault part raised => fault.mismatched.map (readExcept part raised .message)
  | _ => none

/-- Whether this is the end of something that was gone through. -/
def isExhausted : Fault → Bool
  | exhausted _ _ => true
  | unreadable fault _ _ => fault.isExhausted
  | _ => false

/-- The part that the description of the failure is made from. -/
def describedPart : Fault → FaultPart
  | mismatch _ _ => .text
  | exhausted _ _ => .text
  | foreign _ _ => .text
  | unreadable fault _ _ => fault.describedPart
  | _ => .message

/-- The failure in one line: its message after the keyword of its class, or its text after the name of its kind. -/
def describe : Fault → Except Fault Text
  | compiler message => .ok (Keyword.compilerError.write message)
  | execution message _ => .ok (Keyword.error.write message)
  | modelLoad message _ => .ok (Keyword.error.write message)
  | general message => .ok (Keyword.error.write message)
  | mismatch expected actual =>
    .ok ("Mismatch: expected ".toList ++ expected.quoted ++ ", got ".toList ++ actual.quoted)
  | exhausted kind text => .ok (kind ++ ": ".toList ++ text)
  | foreign kind text => .ok (kind ++ ": ".toList ++ text)
  | unreadable fault part raised => readExcept part raised fault.describedPart fault.describe

/-- The failure as it leaves the scope of an engine that was raised while the scope was entered or left. The end of
something that is gone through must not be taken for the end of the scope. -/
def leavingScope (fault : Fault) : Fault :=
  if fault.isExhausted then .foreign "RuntimeError".toList "generator raised StopIteration".toList else fault

end Fault

end SuiteRunner
