import Blueprint.Graph.Edge
import Blueprint.Proofs.Graph.Reference
import Mathlib.Data.List.Basic

/-!
# Renamed identifiers

A renaming replaces every identifier of a graph, those of blocks and those of references. While it
keeps different identifiers apart, lookups, edges and issues of the renamed graph are the renamed
ones: nothing looks into an identifier or compares two of them otherwise than for equality.
-/

namespace Blueprint

section Definitions

variable (r : NodeId → NodeId)

def EntityField.rename : EntityField → EntityField
  | .primitive name type => .primitive name type
  | .valueObject name target => .valueObject name (r target)

def Kind.rename : (k : Kind) → k.Node → k.Node
  | .valueObject, v => { v with id := r (ValueObject.id v) : ValueObject }
  | .entity, e =>
    { e with
      id := r (Entity.id e)
      fields := (Entity.fields e).map (EntityField.rename r) : Entity }
  | .aggregate, a =>
    { a with
      id := r (Aggregate.id a)
      root := r (Aggregate.root a)
      members := (Aggregate.members a).map r : Aggregate }
  | .repository, p => { p with id := r (Repository.id p) : Repository }
  | .useCase, u =>
    { u with
      id := r (UseCase.id u)
      repositories := (UseCase.repositories u).map r
      reads := (UseCase.reads u).map r
      writes := (UseCase.writes u).map r : UseCase }

def Graph.rename (g : Graph) : Graph :=
  ⟨g.valueObjects.map (Kind.rename r .valueObject), g.entities.map (Kind.rename r .entity),
    g.aggregates.map (Kind.rename r .aggregate), g.repositories.map (Kind.rename r .repository),
    g.useCases.map (Kind.rename r .useCase), g.heading⟩

def Edge.rename (e : Edge) : Edge := ⟨r e.source, r e.target, e.kind⟩

/-- An issue with the identifier that it quotes renamed. -/
def Issue.rename : Issue → Issue
  | .missingMember id => .missingMember (r id)
  | .missingRepository id => .missingRepository (r id)
  | .missingTarget id => .missingTarget (r id)
  | .missingValueObject id field => .missingValueObject (r id) field
  | i => i

def Reference.rename (x : Reference) : Reference := ⟨r x.target, x.kinds, x.issue.rename r⟩

end Definitions

variable (r : NodeId → NodeId)

@[simp] theorem Kind.nodeId_rename (k : Kind) (n : k.Node) :
    k.nodeId (k.rename r n) = r (k.nodeId n) := by cases k <;> rfl

@[simp] theorem Kind.nodeName_rename (k : Kind) (n : k.Node) :
    k.nodeName (k.rename r n) = k.nodeName n := by cases k <;> rfl

theorem Issue.severity_rename (i : Issue) : (i.rename r).severity = i.severity := by
  cases i <;> rfl

theorem Graph.nodes_rename (g : Graph) (k : Kind) :
    (g.rename r).nodes k = (g.nodes k).map (k.rename r) := by cases k <;> rfl

theorem Graph.ids_rename (g : Graph) (k : Kind) : (g.rename r).ids k = (g.ids k).map r := by
  rw [ids, ids, nodes_rename, List.map_map, List.map_map]
  exact List.map_congr_left fun n _ => Kind.nodeId_rename r k n

/-! ### References -/

theorem EntityField.reference?_rename (f : EntityField) :
    (f.rename r).reference? = f.reference?.map (Reference.rename r) := by cases f <;> rfl

theorem Kind.references_rename (k : Kind) (n : k.Node) :
    k.references (k.rename r n) = (k.references n).map (Reference.rename r) := by
  cases k with
  | valueObject => rfl
  | repository => rfl
  | entity =>
      have hfields : EntityField.reference? ∘ EntityField.rename r =
          fun f => f.reference?.map (Reference.rename r) :=
        funext (EntityField.reference?_rename r)
      simp only [references, rename, Entity.references, List.filterMap_map, hfields,
        List.map_filterMap]
  | aggregate =>
      simp [references, rename, Aggregate.references, Reference.rename, Issue.rename]
  | useCase =>
      simp [references, rename, UseCase.references, Reference.rename, Issue.rename,
        Function.comp_def]

theorem Kind.gap?_rename (k : Kind) (n : k.Node) :
    k.gap? (k.rename r n) = (k.gap? n).map (Issue.rename r) := by
  cases k with
  | valueObject => cases h : ValueObject.fields n <;> simp [gap?, rename, h, Issue.rename]
  | entity => rfl
  | aggregate => cases h : Aggregate.invariants n <;> simp [gap?, rename, h, Issue.rename]
  | repository => cases h : Repository.methods n <;> simp [gap?, rename, h, Issue.rename]
  | useCase => rfl

/-! ### Edges of a block -/

theorem Entity.targets_rename (e : Entity) :
    Entity.targets (Kind.rename r .entity e) = e.targets.map r := by
  have htarget (f : EntityField) : (f.rename r).target? = f.target?.map r := by cases f <;> rfl
  simp [targets, Kind.rename, List.filterMap_map, List.map_filterMap, htarget]

theorem Entity.edges_rename (e : Entity) :
    Entity.edges (Kind.rename r .entity e) = e.edges.map (Edge.rename r) := by
  rw [edges, targets_rename]
  simp [edges, Kind.rename, Edge.rename]

theorem Aggregate.edges_rename {r : NodeId → NodeId} (hr : Function.Injective r) (a : Aggregate) :
    Aggregate.edges (Kind.rename r .aggregate a) = a.edges.map (Edge.rename r) := by
  have hmembers : (a.members.map r).filter (· != r a.root) =
      (a.members.filter (· != a.root)).map r := by
    rw [List.filter_map]
    congr 1
    refine List.filter_congr fun id _ => ?_
    simp [bne, hr.eq_iff]
  simp [edges, Kind.rename, Edge.rename, hmembers]

theorem UseCase.edges_rename (u : UseCase) :
    UseCase.edges (Kind.rename r .useCase u) = u.edges.map (Edge.rename r) := by
  simp [edges, Kind.rename, Edge.rename, Function.comp_def]

namespace Graph

variable {r} (hr : Function.Injective r) (g : Graph)
include hr

/-! ### Lookups and edges -/

theorem find?_rename (k : Kind) (id : NodeId) :
    (g.rename r).find? k (r id) = (g.find? k id).map (k.rename r) := by
  rw [find?, find?, nodes_rename, List.find?_map]
  congr 2
  funext n
  simp [hr.eq_iff]

theorem kind?_rename (id : NodeId) : (g.rename r).kind? (r id) = g.kind? id := by
  simp only [kind?, find?_rename hr, Option.isSome_map]

theorem name?_rename (id : NodeId) : (g.rename r).name? (r id) = g.name? id := by
  simp only [name?, kind?_rename hr, find?_rename hr, Option.map_map]
  congr 1
  funext k
  congr 1
  funext n
  exact Kind.nodeName_rename r k n

theorem edges_rename : (g.rename r).edges = g.edges.map (Edge.rename r) := by
  simp only [edges, rename, List.flatMap_map, List.map_append, List.map_flatMap,
    Entity.edges_rename, Aggregate.edges_rename hr, UseCase.edges_rename]

/-! ### Issues -/

theorem dangles_rename (x : Reference) : (g.rename r).Dangles (x.rename r) ↔ g.Dangles x := by
  simp [Dangles, Reference.rename, ids_rename, hr.eq_iff]

theorem nodeIssues_rename (k : Kind) (n : k.Node) :
    (g.rename r).nodeIssues k (k.rename r n) = (g.nodeIssues k n).map (Issue.rename r) := by
  have hdangling : ((k.references n).map (Reference.rename r)).filter ((g.rename r).Dangles ·) =
      ((k.references n).filter (g.Dangles ·)).map (Reference.rename r) := by
    rw [List.filter_map]
    congr 1
    refine List.filter_congr fun x _ => ?_
    exact decide_eq_decide.mpr (g.dangles_rename hr x)
  rw [nodeIssues_eq, nodeIssues_eq, Kind.references_rename, Kind.gap?_rename, hdangling,
    List.map_append, Option.toList_map, List.map_map, List.map_map]
  rfl

theorem issues_rename :
    (g.rename r).issues = g.issues.map fun (id, i) => (r id, i.rename r) := by
  rw [issues, issues, List.map_flatMap]
  refine List.flatMap_congr fun k _ => ?_
  rw [kindIssues, kindIssues, nodes_rename, List.flatMap_map, List.map_flatMap]
  refine List.flatMap_congr fun n _ => ?_
  rw [nodeIssues_rename hr, Kind.nodeId_rename, List.map_map, List.map_map]
  rfl

theorem findings_report_rename : (g.rename r).report.findings =
    g.issues.map fun (id, i) => ⟨r id, (i.rename r).message, i.severity⟩ := by
  rw [report, issues_rename hr, List.map_map]
  refine List.map_congr_left fun ⟨id, i⟩ _ => ?_
  exact congrArg (Finding.mk _ _) (Issue.severity_rename r i)

end Graph

end Blueprint
