import Blueprint.Settings.Load
import Blueprint.Snapshot.Text
import Blueprint.Store.Basic

/-!
# Projects in a directory

Each project is a snapshot file in one directory, named for the project. A lock file in the
directory is made before any file is changed. A file that is no snapshot makes its project
corrupted: it is listed without blocks, and it can be replaced or deleted.
-/

namespace Blueprint

structure DirectoryStore where
  dir : Path
  disk : Disk
  deriving DecidableEq

namespace DirectoryStore

variable (s : DirectoryStore)

def fileExtension : String := "json"

def lockName : String := ".archlab-store.lock"

/-- The directory that projects are kept in when no settings name one. -/
def standardDir (env : Environment) : Path :=
  (Settings.directory? env Settings.storeDirVariable).getD
    (match Settings.homeDirectory? env with
      | some home => home.push ".archlab/projects"
      | none => ⟨".archlab/projects"⟩)

def projectPath (name : String) : Path := s.dir.push (name ++ "." ++ fileExtension)

/-- A disk operation of the store, which does not change which directory the store is in. -/
abbrev Operation := Disk → Except StoreFailure Unit × Disk

def access (r : Except SystemFault Unit × Disk) : Except StoreFailure Unit × Disk :=
  (r.1.mapError fun e => .access e.text, r.2)

/-- Makes the directory and its lock file, and then does an operation. -/
def locked (op : Operation) : Except StoreFailure Unit × DirectoryStore :=
  let (r, d) := match access (s.disk.makeDirectories s.dir) with
    | (.ok (), d) =>
      match access (d.replace (s.dir.push lockName) []) with
      | (.ok (), d) => op d
      | failed => failed
    | failed => failed
  (r, { s with disk := d })

/-- The graph in a project file. -/
def readGraph (name : String) (p : Path) : Except StoreFailure Graph := do
  let text ← (s.disk.readText p).mapError fun e => .access e.text
  (Snapshot.load text).mapError fun e => .corrupted name e.message

def save (name : String) (g : Graph) : Except StoreFailure Unit × DirectoryStore :=
  match ProjectName.check name with
  | .error e => (.error e, s)
  | .ok () =>
    s.locked fun d =>
      let (r, d) := d.writeText (s.projectPath name) (Snapshot.write g)
      (r.mapError fun e => .access e.message, d)

def load (name : String) : Except StoreFailure (Option Graph) := do
  ProjectName.check name
  let p := s.projectPath name
  if s.disk.present p then return some (← s.readGraph name p) else return none

def delete (name : String) : Except StoreFailure Unit × DirectoryStore :=
  match ProjectName.check name with
  | .error e => (.error e, s)
  | .ok () =>
    s.locked fun d =>
      match d.removeFile (s.projectPath name) with
      | (.error .notFound, d) => (.ok (), d)
      | r => access r

/-- The entry that a file of the directory stands for. -/
def entry? (file : String) : Option ProjectEntry :=
  match splitExtension file with
  | (name, some ext) =>
    if ext = fileExtension then
      some ⟨name, match s.readGraph name (s.dir.push file) with
        | .ok g => g.nodeCount
        | .error _ => 0⟩
    else none
  | _ => none

def entries : Except StoreFailure (List ProjectEntry) :=
  if s.disk.present s.dir then
    match s.disk.list s.dir with
    | .ok files => .ok (sortByName ProjectEntry.name (files.filterMap s.entry?))
    | .error e => .error (.access e.text)
  else .ok []

instance : GraphStore DirectoryStore where
  save := save
  load := load
  entries := entries
  delete := delete

end DirectoryStore

end Blueprint
