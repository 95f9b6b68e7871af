import Blueprint.Event
import Blueprint.Output.Plan

/-!
# Writing a plan

The files of a plan are written in order. A file that fails is reported and the rest goes on.
Unchanged files may be passed over. Events about single files are details, failed writes apart.
-/

namespace Blueprint

structure WriteResult where
  written : List String
  unchanged : List String
  errors : List (String × String)
  deriving DecidableEq, Inhabited

namespace WriteResult

def empty : WriteResult := ⟨[], [], []⟩

def isSuccess (r : WriteResult) : Bool := r.errors.isEmpty

end WriteResult

/-- What became of one planned file. -/
inductive Deed where
  | written
  | unchanged
  | failed (f : FileFailure)
  deriving DecidableEq

namespace Deed

def record (path : String) (r : WriteResult) : Deed → WriteResult
  | .written => { r with written := path :: r.written }
  | .unchanged => { r with unchanged := path :: r.unchanged }
  | .failed f => { r with errors := (path, f.message) :: r.errors }

def events (details : Bool) (i : Nat) (path : String) : Deed → List Event
  | .written => if details then [.written i path] else []
  | .unchanged => if details then [.unchanged i path] else []
  | .failed f => [.fileFailed i path f.message]

end Deed

namespace Plan

variable {σ : Type} [FileSystem σ]

def writeFile (fs : σ) (skipUnchanged : Bool) (f : PlannedFile) : Deed × σ :=
  if skipUnchanged && f.change == .unchanged then (.unchanged, fs)
  else
    match FileSystem.write fs f.target f.file.content with
    | (.ok (), fs) => (.written, fs)
    | (.error e, fs) => (.failed e, fs)

/-- What became of each file, in order, and the file system in the end. -/
def deeds (skipUnchanged : Bool) : σ → List PlannedFile → List (String × Deed) × σ
  | fs, [] => ([], fs)
  | fs, f :: rest =>
    let (deed, fs) := writeFile fs skipUnchanged f
    let (ds, fs) := deeds skipUnchanged fs rest
    ((f.path, deed) :: ds, fs)

def resultOf (ds : List (String × Deed)) : WriteResult :=
  ds.foldr (fun d r => d.2.record d.1 r) .empty

def eventsOf (details : Bool) (ds : List (String × Deed)) : List Event :=
  (ds.mapIdx fun i d => d.2.events details i d.1).flatten

end Plan

/-- A finished write: its result, the events it sent and the file system it left. -/
structure Written (σ : Type) where
  result : WriteResult
  events : List Event
  files : σ

def Plan.write {σ : Type} [FileSystem σ] (p : Plan) (skipUnchanged details : Bool) (fs : σ) :
    Written σ :=
  let (ds, fs) := deeds skipUnchanged fs p.files
  ⟨resultOf ds, eventsOf details ds, fs⟩

end Blueprint
