import Blueprint.Graph.Basic
import Blueprint.Text.Basic
import Blueprint.Text.Case

/-!
# Findings

What validation has to say about one block: an `Issue` is what is wrong, a `Finding` its wording
and weight. A report fails at a threshold when it holds a finding of at least that severity.
-/

namespace Blueprint

inductive Severity where
  | warning
  | error
  deriving DecidableEq, Inhabited

namespace Severity

def name : Severity → String
  | .warning => "warning"
  | .error => "error"

def rank : Severity → Nat
  | .warning => 0
  | .error => 1

def atLeast (s threshold : Severity) : Bool := threshold.rank ≤ s.rank

/-- Reads a name up to blanks around it and letter case; on failure the text that was looked up. -/
def parse (s : String) : Except String Severity :=
  match Text.lowercase (Text.trim s) with
  | "warning" => .ok .warning
  | "warn" => .ok .warning
  | "error" => .ok .error
  | other => .error other

def unknownMessage (name : String) : String := s!"unknown severity '{name}'"

end Severity

namespace Primitive

/-- Reads a name up to blanks around it and the case of ASCII letters. -/
def parse? (s : String) : Option Primitive := all.find? (Text.sameLetters ·.name (Text.trim s))

def unknownMessage (name : String) : String :=
  s!"unknown primitive type '{name}' (expected one of: " ++
    ", ".intercalate (all.map Primitive.name) ++ ")"

end Primitive

structure Finding where
  node : NodeId
  message : String
  severity : Severity
  deriving DecidableEq, Inhabited

namespace Finding

def isError (f : Finding) : Bool := f.severity == .error

end Finding

inductive Issue where
  | noRoot
  | missingMember (id : NodeId)
  | noInvariant
  | missingRepository (id : NodeId)
  | missingTarget (id : NodeId)
  | missingValueObject (id : NodeId) (field : String)
  | noField
  | noMethod
  deriving DecidableEq, Inhabited

namespace Issue

def severity : Issue → Severity
  | .noInvariant => .warning
  | .noField => .warning
  | .noMethod => .warning
  | _ => .error

def message : Issue → String
  | .noRoot => "Aggregate must have a valid root entity"
  | .missingMember id => s!"Entity {id.text} not found in aggregate"
  | .noInvariant => "Aggregate should define at least one invariant"
  | .missingRepository id => s!"Repository {id.text} not found"
  | .missingTarget id => s!"Target {id.text} not found"
  | .missingValueObject id field => s!"Value Object {id.text} not found for field {field}"
  | .noField => "Value Object should have at least one field"
  | .noMethod => "Repository should define at least one method"

def finding (node : NodeId) (i : Issue) : Finding := ⟨node, i.message, i.severity⟩

end Issue

structure Report where
  findings : List Finding
  deriving DecidableEq, Inhabited

namespace Report

variable (r : Report)

def count (s : Severity) : Nat := r.findings.countP (·.severity == s)

def errors : Nat := r.count .error

def warnings : Nat := r.count .warning

def isClean : Bool := r.findings.isEmpty

def hasErrors : Bool := r.findings.any Finding.isError

def fails (threshold : Severity) : Bool := r.findings.any (·.severity.atLeast threshold)

def forNode (id : NodeId) : List Finding := r.findings.filter (·.node == id)

end Report

end Blueprint
