import Blueprint.CommandLine.Parse
import Blueprint.Event
import Blueprint.Language.CSharp
import Blueprint.Settings.Load
import Blueprint.Terminal.Capabilities
import Blueprint.Terminal.Check
import Blueprint.Terminal.Trouble

/-!
# Sessions and effects

What a task has around it: the environment, the times that it may tell, the settings in force and
the presentation that they lead to. What it does there is an effect.
-/

namespace Blueprint.CommandLine

/-!
### Effects

What a command does: the texts that it writes to its two streams, the disk that it leaves, and its
exit code or the trouble that ends it.
-/

structure Effect where
  out : String
  err : String
  disk : Disk
  result : Except Trouble Nat

namespace Effect

def exitCode (failed : Bool) : Nat := if failed then 1 else 0

/-- Writes a text and succeeds. -/
def print (d : Disk) (out : String) : Effect := ⟨out, "", d, .ok 0⟩

def fail (d : Disk) (t : Trouble) : Effect := ⟨"", "", d, .error t⟩

/-- Puts texts in front of what is written. -/
def after (out err : String) (e : Effect) : Effect :=
  { e with out := out ++ e.out, err := err ++ e.err }

/-- Goes on when an operation succeeded. -/
def attempt {α : Type} (d : Disk) (r : Except Failure α) (next : α → Effect) : Effect :=
  match r with
  | .ok a => next a
  | .error f => fail d (.failure f)

end Effect

/-- One event on a line of its own. -/
def eventLine (event command : String) (ms : List Json.Member) : String :=
  let members := ("event", .string event) :: ("command", .string command) :: ms
  (Json.Value.record members).compact ++ "\n"

/-! ### Sessions -/

open Json Terminal

/-- When a file was saved, as a text and as the seconds since then. -/
structure SavedTime where
  text : String
  age : Nat

/-- What a program finds around it: its environment, whether it writes to a terminal, the time of
day, and the times of files. -/
structure Surroundings where
  env : Environment
  terminal : Bool
  clock : String
  saved : Path → SavedTime

def Surroundings.capabilities (around : Surroundings) : Capabilities :=
  Capabilities.detect around.env around.terminal

structure Session where
  around : Surroundings
  settings : Settings
  ui : Presentation

namespace Session

variable (s : Session)

def look : Look := s.ui.look s.around.env

def outDir (out : Option Path) : Path := out.getD s.settings.generate.outDir

/-- Where events of a compilation go: to the output as JSON, or to the errors as text. -/
def sink (command : String) : Sink :=
  if s.ui.json then .json command else .console s.ui.verbose

def unknownLanguage (name : String) : Trouble :=
  .other (s!"unknown language '{name}' in [generate] config (available: " ++
    ", ".intercalate (Language.all.map Language.name) ++ ")") []

/-- Goes on with the language of the settings. -/
def withLanguage (d : Disk) (next : Language → Effect) : Effect :=
  match Language.find? s.settings.generate.language with
  | some l => next l
  | none => .fail d (unknownLanguage s.settings.generate.language)

/-- The working directory as a path. -/
def workingDirectory (d : Disk) : Path := ⟨"/" ++ "/".intercalate d.cwd⟩

/-- Loads the settings. The text says what is wrong with the environment and with the keys of
files. -/
def load (around : Surroundings) (d : Disk) (i : Invocation) :
    Except Failure (Session × String) := do
  let (settings, unknown) ← Settings.load d around.env (workingDirectory d) i.config
  let (settings, warnings) := settings.override around.env
  let ui := Presentation.choose i.json i.verbose i.color settings.output around.capabilities
  let keys := if ui.json then "" else unknownKeys unknown ui.unicode
  return (⟨around, settings, ui⟩, String.join (warnings.map OverrideWarning.text) ++ keys)

end Session

end Blueprint.CommandLine
