import SuiteRunner.Text.Digit

/-!
Command lines. Options may be shortened as long as they stay unambiguous, short ones may be joined, and after two
dashes nothing is an option.
-/

namespace SuiteRunner.CommandLine

inductive Flag where
  | help
  | only
  | list
  | verbose
  deriving DecidableEq, Repr

/-- The spellings of the options. -/
def spellings : List (Text × Flag) :=
  [("-h".toList, .help), ("--help".toList, .help), ("--only".toList, .only), ("--list".toList, .list),
   ("-v".toList, .verbose), ("--verbose".toList, .verbose)]

/-- An argument: an option with what is attached to it, an unknown option, two dashes, or something else. -/
inductive Argument where
  | option (flag : Flag) (long : Bool) (attached : Option Text)
  | unknown
  | dashes
  | plain (t : Text)
  deriving DecidableEq, Repr

def isLong (t : Text) : Bool :=
  "--".toList.isPrefixOf t

/-- Whether the text is a negative number; such a text is no option. A line feed may follow. -/
def isNegativeNumber (t : Text) : Bool :=
  match t.dropFinalNewline with
  | '-' :: rest =>
    let (whole, fraction) := Text.cutAt '.' rest
    whole.all isDecimalDigit &&
      (if rest.contains '.' then ! fraction.isEmpty && fraction.all isDecimalDigit else ! whole.isEmpty)
  | _ => false

/-- The options that the text may be short for, with what is attached. -/
def candidates (t : Text) : List Argument :=
  if isLong t then
    let (name, value) := t.cutAt '='
    let attached := if t.contains '=' then some value else none
    (spellings.filter fun entry => name.isPrefixOf entry.1).map fun entry => .option entry.2 true attached
  else
    (spellings.filter fun entry => entry.1 == t.take 2).map fun entry => .option entry.2 false (some (t.drop 2))

/-- What an argument is; there is no answer for an ambiguous one. -/
def Argument.read (t : Text) : Option Argument :=
  if t.head? ≠ some '-' || t.length = 1 then some (.plain t)
  else
    match spellings.lookup t with
    | some flag => some (.option flag (isLong t) none)
    | none =>
      match if t.contains '=' then spellings.lookup (t.cutAt '=').1 else none with
      | some flag => some (.option flag (isLong t) (some (t.cutAt '=').2))
      | none =>
        match candidates t with
        | [found] => some found
        | _ :: _ :: _ => none
        | [] => some (if isNegativeNumber t || t.contains ' ' then .plain t else .unknown)

/-- The arguments; behind two dashes all are plain. -/
def readArguments : List Text → Option (List Argument)
  | [] => some []
  | t :: rest =>
    if t = "--".toList then some (.dashes :: rest.map .plain)
    else do
      let first ← Argument.read t
      let others ← readArguments rest
      return first :: others

/-- The flags that are joined behind a short one; each must be a short flag. -/
def joinedFlags : Text → Option (List Flag)
  | [] => some []
  | c :: rest => do
    let flag ← spellings.lookup ['-', c]
    let others ← joinedFlags rest
    return flag :: others

structure Options where
  config : Text
  only : Option Text
  list : Bool
  verbosity : Nat
  deriving DecidableEq, Repr

/-- What has been read of a command line; `surplus` if it holds more than there is use for. -/
structure Progress where
  config : Option Text := none
  only : Option Text := none
  list : Bool := false
  verbosity : Nat := 0
  surplus : Bool := false

/-- What a command line asks for. -/
inductive Request where
  | run (options : Options)
  | help
  | misuse
  deriving DecidableEq, Repr

namespace Progress

def addFlag (p : Progress) : Flag → Progress
  | .list => { p with list := true }
  | .verbose => { p with verbosity := p.verbosity + 1 }
  | _ => p

def finish (p : Progress) : Request :=
  match p.config with
  | none => .misuse
  | some config => if p.surplus then .misuse else .run ⟨config, p.only, p.list, p.verbosity⟩

/-- A plain argument is the configuration if there is none yet. -/
def addPlain (p : Progress) (t : Text) : Progress :=
  match p.config with
  | none => { p with config := some t }
  | some _ => { p with surplus := true }

/-- Takes the flags of one argument, up to a call for help. -/
def addFlags (p : Progress) (flags : List Flag) : Option Progress :=
  if flags.contains .help then none else some (flags.foldl addFlag p)

/-- Reads the arguments in order. Two dashes are in place before the configuration or right behind it, as told
by `behindConfig`. -/
def readAll (p : Progress) (behindConfig : Bool) : List Argument → Request
  | [] => p.finish
  | .plain t :: rest => readAll (p.addPlain t) p.config.isNone rest
  | .dashes :: rest =>
    match p.config, rest with
    | none, .plain _ :: _ => readAll p false rest
    | some _, [] => if behindConfig then p.finish else .misuse
    | _, _ => .misuse
  | .unknown :: rest => readAll { p with surplus := true } false rest
  | .option .only _ (some value) :: rest => readAll { p with only := some value } false rest
  | .option .only _ none :: .plain value :: rest => readAll { p with only := some value } false rest
  | .option .only _ none :: _ => .misuse
  | .option flag _ none :: rest =>
    match p.addFlags [flag] with
    | none => .help
    | some p => readAll p false rest
  | .option _ true (some _) :: _ => .misuse
  | .option _ false (some []) :: _ => .misuse
  | .option flag false (some joined) :: rest =>
    match joinedFlags joined with
    | none => .misuse
    | some flags =>
      match p.addFlags (flag :: flags) with
      | none => .help
      | some p => readAll p false rest

end Progress

/-- What the arguments ask for. -/
def Request.read (arguments : List Text) : Request :=
  match readArguments arguments with
  | none => .misuse
  | some arguments => Progress.readAll {} false arguments

end SuiteRunner.CommandLine
