import Blueprint.Graph.Basic

/-!
# Edges

The relationships between blocks are derived from their references: entities have value objects
as fields, aggregates have a root and members, use cases use repositories and read and write
targets.
-/

namespace Blueprint

inductive EdgeKind where
  | hasField
  | root
  | member
  | usesRepository
  | reads
  | writes
  deriving DecidableEq, Inhabited

namespace EdgeKind

def label : EdgeKind → String
  | .hasField => "has-field"
  | .root => "root"
  | .member => "member"
  | .usesRepository => "uses"
  | .reads => "reads"
  | .writes => "writes"

def tag : EdgeKind → String
  | .usesRepository => "uses-repo"
  | k => k.label

end EdgeKind

structure Edge where
  source : NodeId
  target : NodeId
  kind : EdgeKind
  deriving DecidableEq, Inhabited

def Entity.edges (e : Entity) : List Edge := e.targets.map (⟨·, e.id, .hasField⟩)

/-- The root is no member of its own aggregate. -/
def Aggregate.edges (a : Aggregate) : List Edge :=
  ⟨a.root, a.id, .root⟩ :: (a.members.filter (· != a.root)).map (⟨·, a.id, .member⟩)

def UseCase.edges (u : UseCase) : List Edge :=
  u.repositories.map (⟨·, u.id, .usesRepository⟩) ++ u.reads.map (⟨u.id, ·, .reads⟩) ++
    u.writes.map (⟨u.id, ·, .writes⟩)

def Graph.edges (g : Graph) : List Edge :=
  g.entities.flatMap Entity.edges ++ g.aggregates.flatMap Aggregate.edges ++
    g.useCases.flatMap UseCase.edges

end Blueprint
