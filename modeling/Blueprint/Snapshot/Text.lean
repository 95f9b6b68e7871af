import Blueprint.Disk.FileSystem
import Blueprint.Json.Reader
import Blueprint.Snapshot.Decode
import Blueprint.Snapshot.Encode

/-!
# Snapshots

A snapshot is the text of a graph: JSON, laid out over several lines. A snapshot is read only when
its heading has a name.
-/

namespace Blueprint.Snapshot

open Json

inductive Refusal where
  | malformed (m : Mishap)
  | unnamed
  | misfit (m : Misfit)
  deriving DecidableEq

/-- How the refusal of a text is reported. -/
def Refusal.failure (text : String) : Refusal → Failure
  | .malformed m => .invalidSnapshot (m.describe text)
  | .unnamed => .unnamedSnapshot
  | .misfit m => .invalidSnapshot m.message

def write (g : Graph) : String := g.encode.pretty

def isNamed (v : Value) : Bool :=
  match ((v.member? "meta").bind (·.member? "name")).bind Value.string? with
  | some name => !name.isEmpty
  | none => false

def ofValue (v : Value) : Except Refusal Graph :=
  if isNamed v then (Graph.decode v).mapError .misfit else .error .unnamed

def read (text : String) : Except Refusal Graph := do
  ofValue (← (Value.parse text).mapError .malformed)

def load (text : String) : Except Failure Graph := (read text).mapError (Refusal.failure text)

/-!
### Snapshot files

Snapshots on the disk. A missing file has a failure of its own.
-/

/-- The failure that stands for not reading a snapshot. -/
def readFailure (p : Path) : SystemFault → Failure
  | .notFound => .snapshotNotFound p
  | f => .io f.text

def importFrom (d : Disk) (p : Path) : Except Failure Graph := do
  load (← (d.readText p).mapError (readFailure p))

def exportTo (d : Disk) (p : Path) (g : Graph) : Except Failure Unit × Disk :=
  let (r, d) := d.writeText p (write g)
  (r.mapError .file, d)

/-! ### Patches -/

/-- Puts the members of a patch in place of those of an object. -/
def overlay : Value → Value → Value
  | .object ms, .object patch => .record (ms ++ patch)
  | v, _ => v

/-- A block with some of its members replaced. -/
def patchNode (k : Kind) (patch : Value) (n : k.Node) : Except Misfit k.Node :=
  k.decode (overlay (k.encode n) patch)

end Blueprint.Snapshot
