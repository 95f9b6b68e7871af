import Blueprint.Settings.Basic

/-!
# The grammar of the command line

A command has arguments, options and commands below it. What was given to one command is a `Level`;
a command at the end of its way makes a task out of it. Options that every command has may stand
before or after the name of a command.
-/

namespace Blueprint.CommandLine

/-- What a value may be. -/
inductive ValueKind where
  | path
  | text
  | oneOf (names : List String)

/-- A path is not empty. -/
def ValueKind.admits : ValueKind → String → Bool
  | .path, s => !s.isEmpty
  | .text, _ => true
  | .oneOf names, s => names.contains s

inductive OptionKind where
  | flag
  | count
  | value (label : String) (kind : ValueKind)
  | help
  | version

/-- An option; `rank` is where help lists it. -/
structure OptionSpec where
  name : String
  short : Option Char
  kind : OptionKind
  about : String
  rank : Nat

namespace OptionSpec

def takesValue (o : OptionSpec) : Bool :=
  match o.kind with
  | .value .. => true
  | _ => false

end OptionSpec

structure ArgumentSpec where
  label : String
  kind : ValueKind
  about : String

/-- What was given to one command: its flags, each as often as it stands there, its options with
their values, and its arguments. -/
structure Level where
  flags : List String
  values : List (String × String)
  arguments : List String
  deriving DecidableEq, Inhabited

namespace Level

def empty : Level := ⟨[], [], []⟩

def isEmpty (l : Level) : Bool := l.flags.isEmpty && l.values.isEmpty && l.arguments.isEmpty

def has (l : Level) (flag : String) : Bool := l.flags.contains flag

def value? (l : Level) (option : String) : Option String :=
  (l.values.find? (·.1 == option)).map (·.2)

def path? (l : Level) (option : String) : Option Path := (l.value? option).map Path.mk

def argument (l : Level) (i : Nat) : String := l.arguments.getD i ""

def pathArgument (l : Level) (i : Nat) : Path := ⟨l.argument i⟩

end Level

/-- What is to be done. -/
inductive Task where
  | check (snapshot : Path)
  | generate (snapshot : Path) (out : Option Path) (dryRun strict : Bool)
  | diff (snapshot : Path) (out : Option Path)
  | show (snapshot : Path) (path : String)
  | inspect (snapshot : Path)
  | watch (snapshot : Path) (out : Option Path)
  | starter (out : Option Path)
  | saveProject (name : String) (snapshot : Path)
  | loadProject (name : String) (out : Option Path)
  | listProjects
  | deleteProject (name : String) (yes : Bool)
  deriving DecidableEq, Inhabited

structure CommandSpec where
  name : String
  about : String
  arguments : List ArgumentSpec
  options : List OptionSpec
  commands : List CommandSpec
  task : Option (Level → Task)

/-! ### The commands -/

def globalOptions : List OptionSpec :=
  [⟨"json", none, .flag, "Output NDJSON events (for CI and tooling)", 0⟩,
    ⟨"color", none, .value "COLOR" (.oneOf (ColorMode.all.map ColorMode.name)),
      "Color output mode [possible values: auto, always, never]", 1⟩,
    ⟨"verbose", some 'v', .count, "Verbosity level (-v, -vv, -vvv)", 2⟩,
    ⟨"config", none, .value "PATH" .path,
      "Use this config file instead of the user and project files", 3⟩,
    ⟨"help", some 'h', .help, "Print help", 999⟩]

def versionOption : OptionSpec := ⟨"version", some 'V', .version, "Print version", 999⟩

def snapshotArgument : ArgumentSpec := ⟨"<SNAPSHOT>", .path, "Graph snapshot (JSON)"⟩

def nameArgument : ArgumentSpec := ⟨"<NAME>", .text, ""⟩

def outOption (about : String) : OptionSpec :=
  ⟨"out", some 'o', .value "OUT" .path, about, 0⟩

def outputDirectory : OptionSpec := outOption "Output directory (default from config: `generated`)"

def destination : OptionSpec := outOption "Destination file (stdout if omitted)"

/-- A command that has no commands below it. -/
def leaf (name about : String) (arguments : List ArgumentSpec) (options : List OptionSpec)
    (task : Level → Task) : CommandSpec :=
  ⟨name, about, arguments, options ++ globalOptions, [], some task⟩

def projectCommands : List CommandSpec :=
  [leaf "save" "Save a snapshot under a name" [nameArgument, snapshotArgument] []
      fun l => .saveProject (l.argument 0) (l.pathArgument 1),
    leaf "load" "Load a stored project" [nameArgument] [destination]
      fun l => .loadProject (l.argument 0) (l.path? "out"),
    leaf "list" "List stored projects" [] [] fun _ => .listProjects,
    leaf "delete" "Delete a stored project" [nameArgument]
      [⟨"yes", some 'y', .flag, "Skip the confirmation prompt", 0⟩]
      fun l => .deleteProject (l.argument 0) (l.has "yes")]

def commands : List CommandSpec :=
  [leaf "check" "Validate a snapshot and report findings" [snapshotArgument] []
      fun l => .check (l.pathArgument 0),
    leaf "generate" "Generate source files for every node" [snapshotArgument]
      [outputDirectory,
        ⟨"dry-run", none, .flag, "Show what would be written without writing", 1⟩,
        ⟨"strict", none, .flag,
          "Write nothing when findings reach the configured `fail_on` severity", 2⟩]
      fun l => .generate (l.pathArgument 0) (l.path? "out") (l.has "dry-run") (l.has "strict"),
    leaf "diff" "Show differences between generated code and the output directory"
      [snapshotArgument] [outputDirectory] fun l => .diff (l.pathArgument 0) (l.path? "out"),
    leaf "show" "Print one generated file"
      [snapshotArgument,
        ⟨"<PATH>", .text, "Generated path, e.g. /Domain/ValueObjects/Money.cs"⟩] []
      fun l => .show (l.pathArgument 0) (l.argument 1),
    leaf "inspect" "Summarize nodes and relationships" [snapshotArgument] []
      fun l => .inspect (l.pathArgument 0),
    leaf "watch" "Regenerate whenever the snapshot changes" [snapshotArgument] [outputDirectory]
      fun l => .watch (l.pathArgument 0) (l.path? "out"),
    leaf "starter" "Write the starter ride-sharing snapshot" [] [destination]
      fun l => .starter (l.path? "out"),
    ⟨"project", "Manage named projects in the local store", [], globalOptions, projectCommands,
      none⟩]

def programName : String := "archlab"

def versionText : String := "0.4.1"

def program : CommandSpec :=
  ⟨programName,
    "Domain-model compiler: validate clean-architecture building blocks and generate their source",
    [], globalOptions ++ [versionOption], commands, none⟩

/-- The command that prints help about others. -/
def helpCommand : CommandSpec :=
  ⟨"help", "Print this message or the help of the given subcommand(s)",
    [⟨"[COMMAND]...", .text, "Print help for the subcommand(s)"⟩], [], [], none⟩

namespace CommandSpec

/-- The commands below a command, with the one for help when there are any. -/
def children (c : CommandSpec) : List CommandSpec :=
  if c.commands.isEmpty then [] else c.commands ++ [helpCommand]

def child? (c : CommandSpec) (name : String) : Option CommandSpec :=
  c.children.find? (·.name == name)

def long? (c : CommandSpec) (name : String) : Option OptionSpec :=
  c.options.find? (·.name == name)

def short? (c : CommandSpec) (letter : Char) : Option OptionSpec :=
  c.options.find? (·.short == some letter)

end CommandSpec

end Blueprint.CommandLine
