import Blueprint.Graph.Validation

/-!
# References

Every occurrence of a reference says where it points, which kinds of blocks may stand there and
what is wrong when none does. Validation of a block finds exactly its references that dangle, in
the order in which they stand, and after them the list that should not be empty.
-/

namespace Blueprint

structure Reference where
  target : NodeId
  kinds : List Kind
  issue : Issue
  deriving DecidableEq

def Aggregate.references (a : Aggregate) : List Reference :=
  ⟨a.root, [.entity], .noRoot⟩ :: a.members.map fun id => ⟨id, [.entity], .missingMember id⟩

def UseCase.references (u : UseCase) : List Reference :=
  u.repositories.map (fun id => ⟨id, [.repository], .missingRepository id⟩) ++
    (u.reads ++ u.writes).map fun id => ⟨id, [.entity, .aggregate], .missingTarget id⟩

def EntityField.reference? : EntityField → Option Reference
  | .primitive _ _ => none
  | .valueObject name target => some ⟨target, [.valueObject], .missingValueObject target name⟩

def Entity.references (e : Entity) : List Reference := e.fields.filterMap EntityField.reference?

namespace Kind

/-- The references of a block, each as often as it occurs. -/
def references : (k : Kind) → k.Node → List Reference
  | .valueObject, _ => []
  | .entity, e => Entity.references e
  | .aggregate, a => Aggregate.references a
  | .repository, _ => []
  | .useCase, u => UseCase.references u

/-- What is wrong with a block whose list of contents is empty. -/
def gap? : (k : Kind) → k.Node → Option Issue
  | .valueObject, v => if ValueObject.fields v = [] then some .noField else none
  | .entity, _ => none
  | .aggregate, a => if Aggregate.invariants a = [] then some .noInvariant else none
  | .repository, r => if Repository.methods r = [] then some .noMethod else none
  | .useCase, _ => none

theorem severity_of_mem_references {k : Kind} {n : k.Node} {r : Reference}
    (h : r ∈ k.references n) : r.issue.severity = .error := by
  cases k with
  | valueObject => cases h
  | repository => cases h
  | entity =>
      obtain ⟨f, _, hf⟩ := List.mem_filterMap.mp h
      cases f <;> cases hf
      rfl
  | aggregate =>
      rcases List.mem_cons.mp h with rfl | h
      · rfl
      · obtain ⟨_, _, rfl⟩ := List.mem_map.mp h
        rfl
  | useCase =>
      rcases List.mem_append.mp h with h | h <;> obtain ⟨_, _, rfl⟩ := List.mem_map.mp h <;> rfl

theorem severity_of_gap? {k : Kind} {n : k.Node} {i : Issue} (h : k.gap? n = some i) :
    i.severity = .warning := by
  cases k <;> simp only [gap?, Option.ite_none_right_eq_some, reduceCtorEq] at h
  all_goals
    obtain ⟨_, h⟩ := h
    cases h
    rfl

end Kind

namespace Graph

variable (g : Graph)

/-- No block of a kind that a reference may point to has the identifier it names. -/
def Dangles (r : Reference) : Prop := ∀ k ∈ r.kinds, r.target ∉ g.ids k

instance (r : Reference) : Decidable (g.Dangles r) :=
  inferInstanceAs (Decidable (∀ k ∈ r.kinds, r.target ∉ g.ids k))

/-- All references of a graph. -/
def references : List Reference :=
  g.aggregates.flatMap Aggregate.references ++ g.useCases.flatMap UseCase.references ++
    g.entities.flatMap Entity.references

@[simp] theorem has_iff {k : Kind} {id : NodeId} : g.has k id ↔ id ∈ g.ids k := by simp [has]

theorem has_eq_isSome_find? (k : Kind) (id : NodeId) : g.has k id = (g.find? k id).isSome := by
  rw [Bool.eq_iff_iff, has_iff, find?, List.find?_isSome, ids, List.mem_map]
  simp

theorem decide_dangles (r : Reference) :
    decide (g.Dangles r) = !r.kinds.any fun k => g.has k r.target := by
  rw [Bool.eq_iff_iff, decide_eq_true_iff, Bool.not_eq_true', List.any_eq_false, Dangles]
  simp

/-! ### The issues of one block -/

theorem filter_map_issue {α : Type} (l : List α) (f : α → Reference) :
    ((l.map f).filter (g.Dangles ·)).map Reference.issue =
      (l.filter fun a => !(f a).kinds.any fun k => g.has k (f a).target).map
        fun a => (f a).issue := by
  rw [List.filter_map, List.map_map]
  congr 1
  exact List.filter_congr fun a _ => g.decide_dangles (f a)

theorem aggregateIssues_eq (a : Aggregate) : g.aggregateIssues a =
    (a.references.filter (g.Dangles ·)).map Reference.issue ++
      (Kind.gap? .aggregate a).toList := by
  have hmembers := g.filter_map_issue a.members fun id => ⟨id, [.entity], .missingMember id⟩
  have hgap : (if a.invariants.isEmpty then [.noInvariant] else []) =
      (Kind.gap? .aggregate a).toList := by
    cases h : a.invariants <;> simp [Kind.gap?, h]
  rw [aggregateIssues, Aggregate.references, List.filter_cons, decide_dangles, hgap]
  cases hroot : g.has .entity a.root <;> simp [hmembers, hroot]

theorem useCaseIssues_eq (u : UseCase) : g.useCaseIssues u =
    (u.references.filter (g.Dangles ·)).map Reference.issue := by
  have hrepositories := g.filter_map_issue u.repositories
    fun id => ⟨id, [.repository], .missingRepository id⟩
  have htargets := g.filter_map_issue (u.reads ++ u.writes)
    fun id => ⟨id, [.entity, .aggregate], .missingTarget id⟩
  rw [useCaseIssues, UseCase.references, List.filter_append, List.map_append, hrepositories,
    htargets]
  simp [UseCase.targets, hasTarget]

theorem fieldIssue?_eq (f : EntityField) : g.fieldIssue? f =
    (f.reference?.filter (g.Dangles ·)).map Reference.issue := by
  cases f with
  | primitive name type => rfl
  | valueObject name target =>
      rw [fieldIssue?, EntityField.reference?, Option.filter_some, decide_dangles]
      cases h : g.has .valueObject target <;> simp [h]

theorem entityIssues_eq (e : Entity) : g.entityIssues e =
    (e.references.filter (g.Dangles ·)).map Reference.issue := by
  have hfields : g.fieldIssue? = fun f =>
      (f.reference?.filter (g.Dangles ·)).map Reference.issue := funext g.fieldIssue?_eq
  rw [entityIssues, hfields, Entity.references, List.filter_filterMap, List.map_filterMap]

/-- What validation finds wrong with a block is its references that dangle and its gap. -/
theorem nodeIssues_eq (k : Kind) (n : k.Node) : g.nodeIssues k n =
    ((k.references n).filter (g.Dangles ·)).map Reference.issue ++ (k.gap? n).toList := by
  cases k with
  | valueObject =>
      cases h : ValueObject.fields n <;>
        simp [nodeIssues, valueObjectIssues, Kind.references, Kind.gap?, h]
  | entity => simp [nodeIssues, entityIssues_eq, Kind.references, Kind.gap?]
  | aggregate => exact g.aggregateIssues_eq n
  | repository =>
      cases h : Repository.methods n <;>
        simp [nodeIssues, repositoryIssues, Kind.references, Kind.gap?, h]
  | useCase => simp [nodeIssues, useCaseIssues_eq, Kind.references, Kind.gap?]

end Graph

end Blueprint
