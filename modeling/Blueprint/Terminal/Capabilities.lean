import Blueprint.Settings.Override
import Blueprint.Terminal.Ink
import Blueprint.Text.Basic

/-!
# Capabilities

What the terminal can show, as far as the environment tells, and how output looks in the end: the
command line decides over the settings, and the settings over what was found out.
-/

namespace Blueprint.Terminal

structure Capabilities where
  terminal : Bool
  color : Bool
  unicode : Bool
  ci : Bool
  deriving DecidableEq

namespace Capabilities

def serviceVariables : List String :=
  ["CI", "GITHUB_ACTIONS", "JENKINS_HOME", "BUILDKITE", "CIRCLECI", "TRAVIS", "TEAMCITY_VERSION"]

def isService (env : Environment) : Bool := serviceVariables.any env.has

/-- Whether annotations are understood. -/
def annotates (env : Environment) : Bool := env.has "GITHUB_ACTIONS"

def isDumb (env : Environment) : Bool := Text.sameLetters ((env "TERM").getD "") "dumb"

def localeVariables : List String := ["LC_ALL", "LC_CTYPE", "LANG"]

def unicodeLocale (env : Environment) : Bool :=
  match localeVariables.findSome? env.filled with
  | none => true
  | some value =>
    let name := Text.lowercase value
    Text.contains name "utf-8" || Text.contains name "utf8" || (name != "c" && name != "posix")

def detect (env : Environment) (terminal : Bool) : Capabilities where
  terminal := terminal
  color := terminal && !isDumb env && !env.has "NO_COLOR"
  unicode := !isDumb env && unicodeLocale env
  ci := isService env

def look (c : Capabilities) : Look := ⟨Ink.ofBool c.color, c.unicode⟩

end Capabilities

/-- How the output of a command is presented. -/
structure Presentation where
  json : Bool
  verbose : Nat
  color : Bool
  unicode : Bool
  deriving DecidableEq

namespace Presentation

def choose (json : Bool) (verbose : Nat) (color : Option ColorMode) (output : OutputSettings)
    (c : Capabilities) : Presentation where
  json := json
  verbose := max verbose output.verbosity.level
  color :=
    match color with
    | some .never => false
    | some .always => true
    | _ =>
      match output.color with
      | .never => false
      | .always => true
      | .auto => c.color && !c.ci
  unicode := output.unicode && c.unicode

/-- Color that the environment does not want is written without its colors. -/
def look (p : Presentation) (env : Environment) : Look :=
  ⟨if p.color && (env.filled "NO_COLOR").isSome then .muted else Ink.ofBool p.color, p.unicode⟩

end Presentation

end Blueprint.Terminal
