import Blueprint.CommandLine.Grammar

/-!
# Reading the command line

The words of a command line are read one after the other. An option that takes a value waits for
it, and a value is checked when the next word is taken in, so an earlier fault does not always come
first. After `--` all words are arguments. A command passes the rest of the words to the command
that it names, and is checked after it.
-/

namespace Blueprint.CommandLine

inductive UsageFault where
  | missingArgument
  | unknownArgument
  | invalidValue
  | invalidCommand
  | missingCommand
  | noArguments
  | conflict
  | tooManyValues
  deriving DecidableEq, Inhabited

/-- Why no task comes of a command line: help or the version is asked for, or it is faulty. -/
inductive Stop where
  | help (path : List String) (command : CommandSpec)
  | version
  | fault (f : UsageFault) (path : List String) (command : CommandSpec)

/-- What was read but not taken in. -/
inductive Waiting where
  | option (o : OptionSpec) (value : Option String)
  | argument (a : ArgumentSpec) (value : String)

/-- One command while its words are read. -/
structure Reader where
  path : List String
  command : CommandSpec
  level : Level
  waiting : Option Waiting

namespace Reader

def start (path : List String) (c : CommandSpec) : Reader := ⟨path ++ [c.name], c, .empty, none⟩

variable (r : Reader)

def stop {α : Type} (f : UsageFault) : Except Stop α := .error (.fault f r.path r.command)

/-- Whether the next word is the value of an option. -/
def wantsValue : Bool :=
  match r.waiting with
  | some (.option _ none) => true
  | _ => false

/-- How many arguments were read. -/
def argumentCount : Nat :=
  r.level.arguments.length +
    match r.waiting with
    | some (.argument ..) => 1
    | _ => 0

/-- Takes an option in. -/
def takeOption (o : OptionSpec) (value : Option String) : Except Stop Reader :=
  let level := r.level
  match o.kind with
  | .flag =>
    if level.has o.name then r.stop .conflict
    else .ok { r with level := { level with flags := level.flags ++ [o.name] } }
  | .count => .ok { r with level := { level with flags := level.flags ++ [o.name] } }
  | .value _ kind =>
    match value with
    | none => r.stop .invalidValue
    | some v =>
      if (level.value? o.name).isSome then r.stop .conflict
      else if kind.admits v then
        .ok { r with level := { level with values := level.values ++ [(o.name, v)] } }
      else r.stop .invalidValue
  | .help => .error (.help r.path r.command)
  | .version => .error .version

/-- Takes in what is waiting. -/
def settle : Except Stop Reader :=
  let ready : Reader := { r with waiting := none }
  match r.waiting with
  | none => .ok ready
  | some (.option o value) => ready.takeOption o value
  | some (.argument a value) =>
    if a.kind.admits value then
      let level := r.level
      .ok { ready with level := { level with arguments := level.arguments ++ [value] } }
    else r.stop .invalidValue

/-- An option with the value that is attached to it; without one it may wait for the next word. -/
def option (o : OptionSpec) (attached : Option String) : Except Stop Reader := do
  let r ← r.settle
  if o.takesValue && attached.isNone then return { r with waiting := some (.option o none) }
  else r.takeOption o attached

/-- A word after two dashes. -/
def long (word : List Char) : Except Stop Reader :=
  let name := word.takeWhile (· != '=')
  match r.command.long? (String.ofList name), word.drop name.length with
  | none, _ => r.stop .unknownArgument
  | some o, [] => r.option o none
  | some o, _ :: value =>
    if o.takesValue then r.option o (some (String.ofList value)) else r.stop .tooManyValues

/-- A value right after its letter may have an equals sign in front. -/
def attached : List Char → Option String
  | [] => none
  | '=' :: rest => some (String.ofList rest)
  | rest => some (String.ofList rest)

/-- Letters after one dash. -/
def shorts (r : Reader) : List Char → Except Stop Reader
  | [] => .ok r
  | c :: rest =>
    match r.command.short? c with
    | none => r.stop .unknownArgument
    | some o =>
      if o.takesValue then r.option o (attached rest)
      else do
        let r ← r.option o none
        shorts r rest

/-- An argument, in the order in which the command has them. -/
def argument (afterDashes : Bool) (word : String) : Except Stop Reader :=
  match r.command.arguments[r.argumentCount]? with
  | some a => do
    let r ← r.settle
    return { r with waiting := some (.argument a word) }
  | none =>
    if r.command.commands.isEmpty || (afterDashes && (r.command.child? word).isSome) then
      r.stop .unknownArgument
    else r.stop .invalidCommand

/-- A word that is not the name of a command. -/
def word (w : String) : Except Stop Reader :=
  match w.toList with
  | '-' :: '-' :: rest => r.long rest
  | '-' :: c :: rest => r.shorts (c :: rest)
  | _ =>
    match r.waiting with
    | some (.option o none) => .ok { r with waiting := some (.option o (some w)) }
    | _ => r.argument false w

/-- The end of the words. -/
def finish : Except Stop Level := do
  let r ← r.settle
  if !r.command.commands.isEmpty then
    if r.level.isEmpty then r.stop .noArguments else r.stop .missingCommand
  else if r.level.arguments.length < r.command.arguments.length then r.stop .missingArgument
  else return r.level

end Reader

/-- Goes down to the command that help is asked about. -/
def helpAbout (path : List String) (c : CommandSpec) : List String → Stop
  | [] => .help path c
  | w :: rest =>
    match c.child? w with
    | some d => helpAbout (path ++ [d.name]) d rest
    | none => .fault .invalidCommand path c

/-- What was given to each command on the way, and the last one. -/
structure Parsed where
  levels : List Level
  command : CommandSpec

/-- Reads the words after two dashes. -/
def parseArguments (r : Reader) : List String → Except Stop Parsed
  | [] => r.finish.map fun l => ⟨[l], r.command⟩
  | w :: rest => do parseArguments (← r.argument true w) rest

def parse (r : Reader) : List String → Except Stop Parsed
  | [] => r.finish.map fun l => ⟨[l], r.command⟩
  | w :: rest =>
    match if r.wantsValue then none else r.command.child? w with
    | some c =>
      if c.name = helpCommand.name then .error (helpAbout r.path r.command rest)
      else do
        let below ← parse (.start r.path c) rest
        let r ← r.settle
        return { below with levels := r.level :: below.levels }
    | none =>
      if w = "--" then parseArguments r rest
      else do parse (← r.word w) rest

/-- A task and how it is to be presented. -/
structure Invocation where
  json : Bool
  color : Option ColorMode
  verbose : Nat
  config : Option Path
  task : Task
  deriving DecidableEq

/-- The greatest verbosity that is counted. -/
def verboseLimit : Nat := 255

/-- What the innermost command says counts. -/
def innermost {α : Type} (levels : List Level) (f : Level → Option α) : Option α :=
  levels.reverse.findSome? f

def verbosity (l : Level) : Option Nat :=
  match l.flags.count "verbose" with
  | 0 => none
  | n => some (min n verboseLimit)

def Parsed.invocation? (p : Parsed) : Option Invocation := do
  let task ← p.command.task
  let level ← p.levels.getLast?
  return { json := p.levels.any (·.has "json")
           color := (innermost p.levels (·.value? "color")).bind ColorMode.ofName?
           verbose := (innermost p.levels verbosity).getD 0
           config := innermost p.levels (·.path? "config")
           task := task level }

/-- Reads the words of a command line. -/
def read (words : List String) : Except Stop Invocation := do
  let p ← parse (.start [] program) words
  match p.invocation? with
  | some i => .ok i
  | none => .error (.fault .missingCommand [programName] program)

end Blueprint.CommandLine
