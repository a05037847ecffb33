import SuiteRunner.ParseError
import SuiteRunner.Statement.Basic

/-!
Reading a line as a statement.

A line that starts like a definition is one. Otherwise blanks at its ends do not count, and it is read at its
last arrow, which is `=>` between blanks: what follows the arrow is the expected outcome. In front of it stands
an expression, or a capital letter, the mark `>`, blanks and a command. Without an arrow the line is a command,
or the word OPEN, the mark and a path. The parts of a line hold no line feed, but the blanks between them may.
-/

namespace SuiteRunner

/-- What a line starts with when it defines something. -/
def definitionStarts : List Text :=
  ["to ".toList, "to-report ".toList, "extensions".toList]

/-- The text after the blanks at its start, unless it holds a line feed. -/
def part? (t : Text) : Option Text :=
  if '\n' ∈ t.dropBlank then none else some t.dropBlank

/-- What follows an arrow at the start of the text. -/
def afterArrow? : Text → Option Text
  | '=' :: '>' :: c :: rest => if isBlank c then part? rest else none
  | _ => none

/-- What follows an arrow that stands after blanks at the start of the text. -/
def afterBlankArrow? : Text → Option Text
  | [] => none
  | c :: rest => if isBlank c then afterArrow? (Text.dropBlank rest) else none

/-- The parts before and after the last arrow that can be reached without a line feed in the first part. -/
def splitAtArrow? : Text → Option (Text × Text)
  | [] => none
  | c :: rest =>
    let here := (afterBlankArrow? (c :: rest)).map fun outcome => ([], outcome)
    if c = '\n' then here
    else ((splitAtArrow? rest).map fun (before, outcome) => (c :: before, outcome)).or here

/-- The letter of an agent and what stands behind the mark `>`, which starts with a blank. -/
def agentMark? : Text → Option (Char × Text)
  | code :: '>' :: c :: rest => if isCapital code && isBlank c then some (code, c :: rest) else none
  | _ => none

/-- A command and its outcome behind the mark. The command may be empty, but a blank stands on either side of
it. -/
def commandAtArrow? (t : Text) : Option (Text × Text) :=
  (splitAtArrow? t.dropBlank).or ((afterBlankArrow? (t.drop 1)).map fun outcome => ([], outcome))

/-- The path behind the mark for models. -/
def modelPath? : Text → Option Text
  | 'O' :: 'P' :: 'E' :: 'N' :: '>' :: c :: rest => if isBlank c then part? rest else none
  | _ => none

/-- What follows the keyword and the one character after it. -/
def Keyword.payload? (keyword : Keyword) (outcome : Text) : Option Text :=
  if keyword.text.isPrefixOf outcome then some (outcome.drop (keyword.text.length + 1)) else none

def CommandOutcome.read (outcome : Text) : Except ParseError.Cause CommandOutcome :=
  match Keyword.error.payload? outcome with
  | some message => .ok (.error message)
  | none =>
    match Keyword.compilerError.payload? outcome with
    | some message => .ok (.compileError message)
    | none =>
      match Keyword.stackTrace.payload? outcome with
      | some trace => .ok (.stackTrace (Trace.decode trace))
      | none => .error (.missingKeyword outcome)

def ExpressionOutcome.read (outcome : Text) : ExpressionOutcome :=
  match Keyword.error.payload? outcome with
  | some message => .error message
  | none =>
    match Keyword.stackTrace.payload? outcome with
    | some trace => .stackTrace (Trace.decode trace)
    | none => .result outcome

/-- The kind of agent that the code stands for. -/
def Agent.read (code : Text) : Except ParseError.Cause Agent :=
  match Agent.ofText? code with
  | some agent => .ok agent
  | none => .error (.unrecognizedAgent code)

namespace Statement

/-- A line without an arrow. -/
def readPlain (line text : Text) : Except ParseError.Cause Statement :=
  match (agentMark? text).bind fun (code, rest) => (part? rest).map (code, ·) with
  | some (code, body) => (Agent.read [code]).map fun agent => .command agent body .success
  | none =>
    match modelPath? text with
    | some path => .ok (.openModel path)
    | none => .error (.unrecognizedLine line)

/-- The statement that a line holds. The letter of a command is looked at before its outcome. -/
def read (line : Text) : Except ParseError.Cause Statement :=
  if definitionStarts.any (·.isPrefixOf line) then .ok (.definition line)
  else
    let text := line.trim
    match (agentMark? text).bind fun (code, rest) => (commandAtArrow? rest).map (code, ·) with
    | some (code, body, outcome) => do
      let agent ← Agent.read [code]
      let expected ← CommandOutcome.read outcome
      return .command agent body expected
    | none =>
      match splitAtArrow? text with
      | some (before, outcome) => .ok (.expression before (ExpressionOutcome.read outcome))
      | none => readPlain line text

end Statement

end SuiteRunner
