import Blueprint.Snapshot.Text
import Blueprint.Store.Basic

/-!
# Projects

What is done with projects, whatever store keeps them. To load a project that is not there is a
failure, and snapshot files go in and out of the store.
-/

namespace Blueprint.Projects

variable {σ : Type} [GraphStore σ] (s : σ)

def save (name : String) (g : Graph) : Except Failure Unit × σ :=
  let (r, s) := GraphStore.save s name g
  (r.mapError .store, s)

def load (name : String) : Except Failure Graph := do
  match ← (GraphStore.load s name).mapError .store with
  | some g => .ok g
  | none => .error (.projectNotFound name)

def exists? (name : String) : Except Failure Bool :=
  ((GraphStore.load s name).map Option.isSome).mapError .store

def list : Except Failure (List ProjectEntry) := (GraphStore.entries s).mapError .store

def names : Except Failure (List String) := (list s).map (·.map ProjectEntry.name)

def delete (name : String) : Except Failure Unit × σ :=
  let (r, s) := GraphStore.delete s name
  (r.mapError .store, s)

/-- Puts the graph of a snapshot file into the store. -/
def saveFile (d : Disk) (name : String) (file : Path) : Except Failure Graph × σ :=
  match Snapshot.importFrom d file with
  | .error e => (.error e, s)
  | .ok g =>
    let (r, s) := save s name g
    (r.map fun _ => g, s)

/-- Writes a project to a snapshot file. -/
def loadToFile (d : Disk) (name : String) (file : Path) : Except Failure Graph × Disk :=
  match load s name with
  | .error e => (.error e, d)
  | .ok g =>
    let (r, d) := Snapshot.exportTo d file g
    (r.map fun _ => g, d)

end Blueprint.Projects
