import Blueprint.Graph.Finding

/-!
# Validation

Every reference must resolve in the collections it may point to, and aggregates, value objects and
repositories should not be empty. `Graph.issues` lists what is wrong, each with the block that
holds it: first the aggregates, then the use cases, entities, value objects and repositories, each
in the order of its collection. No issue hides another.
-/

namespace Blueprint

namespace Graph

variable (g : Graph)

def aggregateIssues (a : Aggregate) : List Issue :=
  (if g.has .entity a.root then [] else [.noRoot]) ++
    (a.members.filter (!g.has .entity ·)).map .missingMember ++
    (if a.invariants.isEmpty then [.noInvariant] else [])

/-- Use cases act on entities and aggregates. -/
def hasTarget (id : NodeId) : Bool := g.has .entity id || g.has .aggregate id

def useCaseIssues (u : UseCase) : List Issue :=
  (u.repositories.filter (!g.has .repository ·)).map .missingRepository ++
    (u.targets.filter (!g.hasTarget ·)).map .missingTarget

def fieldIssue? : EntityField → Option Issue
  | .primitive _ _ => none
  | .valueObject name target =>
    if g.has .valueObject target then none else some (.missingValueObject target name)

def entityIssues (e : Entity) : List Issue := e.fields.filterMap g.fieldIssue?

def valueObjectIssues (v : ValueObject) : List Issue := if v.fields.isEmpty then [.noField] else []

def repositoryIssues (r : Repository) : List Issue := if r.methods.isEmpty then [.noMethod] else []

/-- What is wrong with one block of a graph. -/
def nodeIssues : (k : Kind) → k.Node → List Issue
  | .valueObject, n => valueObjectIssues n
  | .entity, n => g.entityIssues n
  | .aggregate, n => g.aggregateIssues n
  | .repository, n => repositoryIssues n
  | .useCase, n => g.useCaseIssues n

/-- The order in which the kinds are checked. -/
def checkOrder : List Kind := [.aggregate, .useCase, .entity, .valueObject, .repository]

def kindIssues (k : Kind) : List (NodeId × Issue) :=
  (g.nodes k).flatMap fun n => (g.nodeIssues k n).map (k.nodeId n, ·)

def issues : List (NodeId × Issue) := checkOrder.flatMap g.kindIssues

def report : Report := ⟨g.issues.map fun (id, i) => i.finding id⟩

end Graph

end Blueprint
