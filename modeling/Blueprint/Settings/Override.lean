import Blueprint.Settings.Basic
import Blueprint.Text.Basic
import Blueprint.Text.EditDistance

/-!
# Settings from the environment

Four variables override the settings of files. A directory that is blank does not count, and a
name that is not known gives a warning and changes nothing.
-/

namespace Blueprint

/-- The values of the variables that are set. -/
abbrev Environment := String → Option String

namespace Environment

def ofList (pairs : List (String × String)) : Environment := fun name =>
  (pairs.find? (·.1 == name)).map (·.2)

/-- A variable whose value is not empty. -/
def filled (env : Environment) (name : String) : Option String :=
  (env name).filter (!·.isEmpty)

def has (env : Environment) (name : String) : Bool := (env name).isSome

end Environment

/-- A variable whose value is not one of those that it may have. -/
structure OverrideWarning where
  name : String
  value : String
  valid : List String
  deriving DecidableEq

namespace OverrideWarning

variable (w : OverrideWarning)

def suggestion : Option String :=
  (Text.closest (Text.lowercase w.value) w.valid).filter (· != w.value)

def text : String :=
  let hint := match w.suggestion with
    | some s => s!". Did you mean '{s}'?"
    | none => ""
  Text.unlines [s!"Warning: Invalid {w.name} value '{w.value}'{hint}",
    "Valid values: " ++ ", ".intercalate w.valid]

end OverrideWarning

namespace Settings

def outDirVariable : String := "ARCHLAB_OUT_DIR"

def storeDirVariable : String := "ARCHLAB_STORE_DIR"

def failOnVariable : String := "ARCHLAB_FAIL_ON"

def verbosityVariable : String := "ARCHLAB_VERBOSITY"

/-- The directory that a variable names, unless it is blank. -/
def directory? (env : Environment) (name : String) : Option Path :=
  ((env name).filter (!Text.blank ·)).map Path.mk

/-- The value of a variable that names one of several things, or a warning. -/
def choice {α : Type} (env : Environment) (name : String) (valid : List String)
    (parse? : String → Option α) (fallback : α) : α × List OverrideWarning :=
  match env name with
  | none => (fallback, [])
  | some value =>
    match parse? value with
    | some a => (a, [])
    | none => (fallback, [⟨name, value, valid⟩])

def override (env : Environment) (c : Settings) : Settings × List OverrideWarning :=
  let (failOn, ws) := choice env failOnVariable ["error", "warning"]
    (fun v => (Severity.parse v).toOption) c.generate.failOn
  let (verbosity, vs) := choice env verbosityVariable (Verbosity.all.map Verbosity.name)
    Verbosity.parse? c.output.verbosity
  ({ generate :=
      { c.generate with
        outDir := (directory? env outDirVariable).getD c.generate.outDir
        failOn := failOn }
     store := ⟨(directory? env storeDirVariable).or c.store.dir⟩
     output := { c.output with verbosity := verbosity } }, ws ++ vs)

end Settings

end Blueprint
