import Blueprint.Graph.Finding
import Blueprint.Json.Value
import Blueprint.Text.Basic

/-!
# Events

What a compile or generate run reports while it goes on. Files are named by their index and path.
A sink turns events into text. The JSON sink writes one object a line for every event; the console
sink writes a line for the events that its verbosity shows. A sink that asks for no details is not
sent the events about single findings and files, failed writes apart.
-/

namespace Blueprint

open Json

inductive Event where
  | started (graph : String) (nodeCount : Nat)
  | finding (node : String) (severity : Severity) (message : String)
  | validated (errors warnings : Nat)
  | emitted (index : Nat) (path : String)
  | written (index : Nat) (path : String)
  | unchanged (index : Nat) (path : String)
  | fileFailed (index : Nat) (path error : String)
  | completed (emitted written unchanged errors : Nat)
  deriving DecidableEq, Inhabited

namespace Event

def name : Event → String
  | .started .. => "start"
  | .finding .. => "finding"
  | .validated .. => "validated"
  | .emitted .. => "file_emitted"
  | .written .. => "file_written"
  | .unchanged .. => "file_unchanged"
  | .fileFailed .. => "file_error"
  | .completed .. => "complete"

def members : Event → List Member
  | .started graph n => [("graph", .string graph), ("node_count", .nat n)]
  | .finding node severity message =>
    [("node_id", .string node), ("severity", .string severity.name), ("message", .string message)]
  | .validated errors warnings => [("errors", .nat errors), ("warnings", .nat warnings)]
  | .emitted i path => [("index", .nat i), ("path", .string path)]
  | .written i path => [("index", .nat i), ("path", .string path)]
  | .unchanged i path => [("index", .nat i), ("path", .string path)]
  | .fileFailed i path error =>
    [("index", .nat i), ("path", .string path), ("error", .string error)]
  | .completed files wrote kept errors =>
    [("status", .string (if errors = 0 then "success" else "partial")), ("emitted", .nat files),
      ("written", .nat wrote), ("unchanged", .nat kept), ("errors", .nat errors)]

def toJson (command : String) (e : Event) : Value :=
  .record (("event", .string e.name) :: ("command", .string command) :: e.members)

/-- The line that the console shows at a verbosity. -/
def consoleLine? (verbosity : Nat) : Event → Option String
  | .fileFailed _ path error => some s!"error: failed to write {path}: {error}"
  | .started graph n => if 1 ≤ verbosity then some s!"compiling '{graph}' ({n} nodes)" else none
  | .validated errors warnings =>
    if 1 ≤ verbosity then some s!"validated: {errors} error(s), {warnings} warning(s)" else none
  | .written _ path => if 1 ≤ verbosity then some s!"  wrote {path}" else none
  | .unchanged _ path => if 2 ≤ verbosity then some s!"  unchanged {path}" else none
  | .emitted _ path => if 3 ≤ verbosity then some s!"  emitted {path}" else none
  | .finding .. => none
  | .completed .. => none

end Event

/-! ### Sinks -/

inductive Sink where
  | silent
  | json (command : String)
  | console (verbosity : Nat)
  deriving DecidableEq

namespace Sink

def wantsDetails : Sink → Bool
  | .silent => false
  | .json _ => true
  | .console verbosity => 1 ≤ verbosity

def line? : Sink → Event → Option String
  | .silent, _ => none
  | .json command, e => some (e.toJson command).compact
  | .console verbosity, e => e.consoleLine? verbosity

/-- The text that the sink writes for a sequence of events. -/
def render (s : Sink) (events : List Event) : String := Text.unlines (events.filterMap s.line?)

end Sink

end Blueprint
