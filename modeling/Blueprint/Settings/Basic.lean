import Blueprint.Graph.Finding
import Blueprint.Path

/-!
# Settings

What a user may choose once instead of on every command line, and the defaults.
-/

namespace Blueprint

inductive Verbosity where
  | quiet
  | normal
  | verbose
  | debug
  deriving DecidableEq, Inhabited

namespace Verbosity

def all : List Verbosity := [.quiet, .normal, .verbose, .debug]

def name : Verbosity → String
  | .quiet => "quiet"
  | .normal => "normal"
  | .verbose => "verbose"
  | .debug => "debug"

/-- How much progress is shown: at zero only failures. -/
def level : Verbosity → Nat
  | .quiet => 0
  | .normal => 0
  | .verbose => 1
  | .debug => 3

def ofName? (s : String) : Option Verbosity := all.find? (·.name == s)

/-- Reads a name up to blanks around it and letter case. -/
def parse? (s : String) : Option Verbosity := ofName? (Text.lowercase (Text.trim s))

end Verbosity

inductive ColorMode where
  | auto
  | always
  | never
  deriving DecidableEq, Inhabited

namespace ColorMode

def all : List ColorMode := [.auto, .always, .never]

def name : ColorMode → String
  | .auto => "auto"
  | .always => "always"
  | .never => "never"

def ofName? (s : String) : Option ColorMode := all.find? (·.name == s)

end ColorMode

namespace Severity

def all : List Severity := [.warning, .error]

def ofName? (s : String) : Option Severity := all.find? (·.name == s)

end Severity

structure GenerateSettings where
  outDir : Path
  failOn : Severity
  skipUnchanged : Bool
  language : String
  deriving DecidableEq, Inhabited

structure StoreSettings where
  dir : Option Path
  deriving DecidableEq, Inhabited

structure OutputSettings where
  verbosity : Verbosity
  color : ColorMode
  unicode : Bool
  deriving DecidableEq, Inhabited

structure Settings where
  generate : GenerateSettings
  store : StoreSettings
  output : OutputSettings
  deriving DecidableEq, Inhabited

def GenerateSettings.standard : GenerateSettings := ⟨⟨"generated"⟩, .error, true, "csharp"⟩

def StoreSettings.standard : StoreSettings := ⟨none⟩

def OutputSettings.standard : OutputSettings := ⟨.normal, .auto, true⟩

def Settings.standard : Settings := ⟨.standard, .standard, .standard⟩

end Blueprint
