import Blueprint.Store.Basic

/-!
# Projects in memory

Projects in increasing order of their names.
-/

namespace Blueprint

structure MemoryStore where
  projects : List (String × Graph)
  deriving DecidableEq, Inhabited

namespace MemoryStore

def empty : MemoryStore := ⟨[]⟩

/-- Puts a graph at the place of its name, where it replaces the one that was there. -/
def put (name : String) (g : Graph) : List (String × Graph) → List (String × Graph)
  | [] => [(name, g)]
  | (n, h) :: rest =>
    match compare name n with
    | .lt => (name, g) :: (n, h) :: rest
    | .eq => (name, g) :: rest
    | .gt => (n, h) :: put name g rest

def find? (m : MemoryStore) (name : String) : Option Graph :=
  (m.projects.find? (·.1 == name)).map (·.2)

instance : GraphStore MemoryStore where
  save m name g :=
    match ProjectName.check name with
    | .ok () => (.ok (), ⟨put name g m.projects⟩)
    | .error e => (.error e, m)
  load m name := (ProjectName.check name).map fun _ => m.find? name
  entries m := .ok (m.projects.map fun (name, g) => ⟨name, g.nodeCount⟩)
  delete m name :=
    match ProjectName.check name with
    | .ok () => (.ok (), ⟨m.projects.filter (·.1 != name)⟩)
    | .error e => (.error e, m)

end MemoryStore

end Blueprint
