import SuiteRunner.World.Expression

/-!
Commands. A text holds commands with semicolons between them. All are checked before the first runs: each must
be a procedure, or a primitive that the agent may use. Running them changes the world, and what a command has
changed stays changed when a later one fails.
-/

namespace SuiteRunner.World

inductive Primitive where
  | createTurtles
  | die
  | clearAll
  | set
  | error
  deriving DecidableEq, Repr

namespace Primitive

def ofText? (t : Text) : Option Primitive :=
  if t = "crt".toList then some createTurtles
  else if t = "die".toList then some die
  else if t = "clear-all".toList then some clearAll
  else if t = "set".toList then some set
  else if t = "error".toList then some error
  else none

/-- The only kind of agent that may use the primitive, if it is not open to all. -/
def agent? : Primitive → Option Agent
  | createTurtles | clearAll => some .observer
  | die => some .turtle
  | set | error => none

end Primitive

/-- The commands of a text; blank ones do not count. -/
def commands (t : Text) : List Text :=
  ((t.splitOn ';').map Text.trim).filter (! ·.isEmpty)

/-- The kind of agent with its article. -/
def withArticle (agent : Agent) : Text :=
  (if agent = .observer then "an ".toList else "a ".toList) ++ agent.name

/-- The agent may not use the primitive of this name. -/
def wrongContext (name : Text) (agent required : Agent) : Fault :=
  .compiler ("You can't use ".toList ++ name.toUpper ++ " in ".toList ++ withArticle agent ++
    " context, only ".toList ++ required.name ++ ['.'])

/-- Checks the first word of a command. The procedures go before the primitives. -/
def checkName (world : World) (agent : Agent) (name : Text) : Except Fault Unit :=
  if world.procedures.has name then .ok ()
  else
    match Primitive.ofText? name with
    | none => .error (nothingNamed name)
    | some primitive =>
      match primitive.agent? with
      | none => .ok ()
      | some required => if required = agent then .ok () else .error (wrongContext name agent required)

/-- There is no command in the text. -/
def noCommand : Fault :=
  .compiler "Expected a command.".toList

/-- Checks commands up to the first that is turned down. -/
def checkAll (world : World) (agent : Agent) : List Text → Except Fault Unit
  | [] => .ok ()
  | command :: rest =>
    match world.checkName agent (command.words.headD []) with
    | .error fault => .error fault
    | .ok () => checkAll world agent rest

/-- Checks all commands of a text without running them. -/
def check (world : World) (agent : Agent) (t : Text) : Except Fault Unit :=
  match commands t with
  | [] => .error noCommand
  | cs => world.checkAll agent cs

/-- What comes of running something: its end or a stop, and the world after it. -/
abbrev Ran := Except Stop Unit × World

/-- Calls a procedure: its body is checked, then handed to `call`. -/
def callProcedure (agent : Agent) (call : Text → World → Ran) (name : Text) (world : World) : Ran :=
  match world.procedures.get? name with
  | none => (.error (.fault (missingProcedure name)), world)
  | some body =>
    match world.check agent body with
    | .error fault => (.error (.fault fault), world)
    | .ok () =>
      let (ended, world) := call body world
      (ended.mapError (Stop.calledBy name), world)

/-- Runs a primitive on what follows its name. -/
def runPrimitive (agent : Agent) (depth : Nat) (primitive : Primitive) (rest : Text) (world : World) : Ran :=
  match primitive with
  | .createTurtles =>
    match world.value agent depth rest with
    | .error stop => (.error stop, world)
    | .ok value =>
      match value.text with
      | .error fault => (.error (.fault fault), world)
      | .ok t =>
        match value.toInt? with
        | some n => (.ok (), { world with turtles := world.turtles + n })
        | none => (.error (.fault (badInteger t)), world)
  | .die => (.ok (), { world with turtles := world.turtles - 1 })
  | .clearAll => (.ok (), { world with turtles := 0, globals := [] })
  | .set =>
    let (name, expression) := rest.cutAt ' '
    match world.value agent depth expression with
    | .error stop => (.error stop, world)
    | .ok value => (.ok (), { world with globals := world.globals.put name value })
  | .error => (.error (failed rest agent "ERROR".toList), world)

/-- Runs one command, whose name ends at the first space. Here the primitives go before the procedures. -/
def runCommand (agent : Agent) (depth : Nat) (call : Text → World → Ran) (command : Text) (world : World) : Ran :=
  let (name, rest) := command.cutAt ' '
  match Primitive.ofText? name with
  | some primitive => runPrimitive agent depth primitive rest world
  | none => callProcedure agent call name world

/-- Takes steps in order, up to the first that stops. -/
def runAll (step : Text → World → Ran) : List Text → World → Ran
  | [], world => (.ok (), world)
  | command :: rest, world =>
    match step command world with
    | (.error stop, world) => (.error stop, world)
    | (.ok (), world) => runAll step rest world

/-- Runs the commands of a text, with calls of procedures nested less deeply than the given depth. -/
def run (agent : Agent) : Nat → Text → World → Ran
  | 0, _, world => (.error .tooDeep, world)
  | depth + 1, t, world =>
    match commands t with
    | [] => (.error (.fault noCommand), world)
    | cs => runAll (runCommand agent depth (run agent depth)) cs world

/-- Does the same a number of times, up to the first time that stops. -/
def repeatRun (again : World → Ran) : Nat → World → Ran
  | 0, world => (.ok (), world)
  | times + 1, world =>
    match again world with
    | (.error stop, world) => (.error stop, world)
    | (.ok (), world) => repeatRun again times world

/-- Executes a text that is checked first. For turtles it is run once for each that was there at the start. -/
def execute (depth : Nat) (t : Text) (agent : Agent) (world : World) : Ran :=
  match world.check agent t with
  | .error fault => (.error (.fault fault), world)
  | .ok () =>
    match agent with
    | .turtle => repeatRun (run agent depth t) world.turtles.toNat world
    | _ => run agent depth t world

end SuiteRunner.World
