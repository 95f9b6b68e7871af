import Blueprint.Digest.Sha256
import Blueprint.Failure

/-!
# File systems

What planning and writing need of a file system: reading a text, writing one and asking whether a
path exists. A write gives the file system after it, also when it fails. `Faulty` makes chosen
reads and writes of another file system fail, which leaves that one as it was.
-/

namespace Blueprint

class FileSystem (σ : Type) where
  read : σ → Path → Except FileFailure String
  write : σ → Path → String → Except FileFailure Unit × σ
  present : σ → Path → Bool

def FileSystem.hash {σ : Type} [FileSystem σ] (fs : σ) (p : Path) : Except FileFailure String :=
  (read fs p).map contentHash

/-! ### Files in memory -/

/-- Files in increasing order of their components, one for each list of components. -/
structure MemoryFiles where
  entries : List (Path × String)
  deriving DecidableEq, Inhabited

namespace MemoryFiles

def empty : MemoryFiles := ⟨[]⟩

/-- Puts a file at its place; a path that is there already keeps its spelling. -/
def insertEntry (p : Path) (content : String) : List (Path × String) → List (Path × String)
  | [] => [(p, content)]
  | (q, old) :: rest =>
    match p.compare q with
    | .lt => (p, content) :: (q, old) :: rest
    | .eq => (q, content) :: rest
    | .gt => (q, old) :: insertEntry p content rest

def insert (m : MemoryFiles) (p : Path) (content : String) : MemoryFiles :=
  ⟨insertEntry p content m.entries⟩

def get? (m : MemoryFiles) (p : Path) : Option String :=
  (m.entries.find? fun e => p.same e.1).map (·.2)

def paths (m : MemoryFiles) : List Path := m.entries.map (·.1)

def ofList (files : List (Path × String)) : MemoryFiles :=
  files.foldl (fun m f => m.insert f.1 f.2) empty

instance : FileSystem MemoryFiles where
  read m p :=
    match m.get? p with
    | some content => .ok content
    | none => .error (.notFound p)
  write m p content := (.ok (), m.insert p content)
  present m p := (m.get? p).isSome

end MemoryFiles

/-! ### Failing files -/

structure Faulty (σ : Type) where
  base : σ
  onRead : Path → Option FileFailure
  onWrite : Path → Option FileFailure

instance {σ : Type} [FileSystem σ] : FileSystem (Faulty σ) where
  read fs p :=
    match fs.onRead p with
    | some f => .error f
    | none => FileSystem.read fs.base p
  write fs p content :=
    match fs.onWrite p with
    | some f => (.error f, fs)
    | none =>
      let (r, base) := FileSystem.write fs.base p content
      (r, { fs with base := base })
  present fs p := FileSystem.present fs.base p

end Blueprint
