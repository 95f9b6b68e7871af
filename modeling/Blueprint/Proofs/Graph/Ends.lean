import Blueprint.Graph.Edge
import Blueprint.Graph.Starter
import Blueprint.Proofs.Graph.Validation
import Blueprint.Terminal.Inspection

/-!
# Ends of edges

An edge is derived from a block, which is at one of its ends; what the block refers to is at the
other. Edges and reports look at the same references, although a root that is also a member makes
one edge and is reported twice: there is no error exactly when every edge connects its block to one
of the kinds that it may lead to, and then both ends of every edge have names.
-/

namespace Blueprint

namespace Graph

variable (g : Graph)

/-- The end of an edge that is not the block it is derived from is where the edge may lead. -/
def Connects (e : Edge) : Prop :=
  match e.kind with
  | .hasField => e.source ∈ g.ids .valueObject
  | .root | .member => e.source ∈ g.ids .entity
  | .usesRepository => e.source ∈ g.ids .repository
  | .reads | .writes => e.target ∈ g.ids .entity ∨ e.target ∈ g.ids .aggregate

/-! ### Edges and references -/

theorem connects_entity_iff (n : Entity) :
    (∀ e ∈ n.edges, g.Connects e) ↔ ∀ id ∈ n.targets, id ∈ g.ids .valueObject := by
  rw [Entity.edges, List.forall_mem_map]
  rfl

/-- A member that is the root makes no edge of its own, and the edge of the root speaks for it. -/
theorem connects_aggregate_iff (a : Aggregate) :
    (∀ e ∈ a.edges, g.Connects e) ↔ ∀ id ∈ a.root :: a.members, id ∈ g.ids .entity := by
  rw [Aggregate.edges, List.forall_mem_cons, List.forall_mem_cons, List.forall_mem_map]
  refine and_congr_right fun hroot => ⟨fun h id hid => ?_, fun h id hid => ?_⟩
  · by_cases hid' : id = a.root
    · exact hid' ▸ hroot
    · exact h id (List.mem_filter.mpr ⟨hid, bne_iff_ne.mpr hid'⟩)
  · exact h id (List.mem_filter.mp hid).1

theorem connects_useCase_iff (u : UseCase) : (∀ e ∈ u.edges, g.Connects e) ↔
    (∀ id ∈ u.repositories, id ∈ g.ids .repository) ∧
      ∀ id ∈ u.reads ++ u.writes, id ∈ g.ids .entity ∨ id ∈ g.ids .aggregate := by
  rw [UseCase.edges, List.forall_mem_append, List.forall_mem_append, List.forall_mem_append,
    List.forall_mem_map, List.forall_mem_map, List.forall_mem_map, and_assoc]
  rfl

theorem errors_report_eq_zero_iff : g.report.errors = 0 ↔ ∀ e ∈ g.edges, g.Connects e := by
  have herrors : g.report.errors = 0 ↔ ∀ r ∈ g.references, ¬ g.Dangles r := by
    rw [errors_report, List.countP_eq_zero]
    simp
  rw [herrors, forall_mem_references_iff, edges, List.forall_mem_append, List.forall_mem_append,
    List.forall_mem_flatMap, List.forall_mem_flatMap, List.forall_mem_flatMap]
  simp only [forall_not_dangles_aggregate_iff, forall_not_dangles_useCase_iff,
    forall_not_dangles_entity_iff, connects_entity_iff, connects_aggregate_iff,
    connects_useCase_iff]
  tauto

/-! ### Names -/

variable {g}

theorem isSome_name? {k : Kind} {id : NodeId} (h : id ∈ g.ids k) : (g.name? id).isSome := by
  have hfind : (g.find? k id).isSome := by rwa [← has_eq_isSome_find?, has_iff]
  have hkind : (g.kind? id).isSome := by
    rw [kind?, List.find?_isSome]
    exact ⟨k, by cases k <;> decide, hfind⟩
  obtain ⟨l, hl⟩ := Option.isSome_iff_exists.mp hkind
  have hfound : (g.find? l id).isSome :=
    List.find?_some (p := fun k => (g.find? k id).isSome) (l := Kind.all) hl
  rw [name?, hl, Option.bind_some, Option.isSome_map]
  exact hfound

/-- The block that an edge is derived from is at the end where the edge does not lead. -/
theorem exists_kinds_of_connects {e : Edge} (he : e ∈ g.edges) (h : g.Connects e) :
    (∃ k, e.source ∈ g.ids k) ∧ ∃ k, e.target ∈ g.ids k := by
  simp only [edges, List.mem_append, List.mem_flatMap] at he
  obtain (⟨n, hn, he⟩ | ⟨a, ha, he⟩) | ⟨u, hu, he⟩ := he
  · obtain ⟨id, -, rfl⟩ := List.mem_map.mp he
    exact ⟨⟨.valueObject, h⟩, .entity, List.mem_map_of_mem hn⟩
  · have htarget : a.id ∈ g.ids .aggregate := List.mem_map_of_mem ha
    obtain rfl | he := List.mem_cons.mp he
    · exact ⟨⟨.entity, h⟩, .aggregate, htarget⟩
    · obtain ⟨id, -, rfl⟩ := List.mem_map.mp he
      exact ⟨⟨.entity, h⟩, .aggregate, htarget⟩
  · have hholder : u.id ∈ g.ids .useCase := List.mem_map_of_mem hu
    simp only [UseCase.edges, List.mem_append, List.mem_map] at he
    obtain (⟨id, -, rfl⟩ | ⟨id, -, rfl⟩) | ⟨id, -, rfl⟩ := he
    · exact ⟨⟨.repository, h⟩, .useCase, hholder⟩
    · exact ⟨⟨.useCase, hholder⟩, h.elim (⟨.entity, ·⟩) (⟨.aggregate, ·⟩)⟩
    · exact ⟨⟨.useCase, hholder⟩, h.elim (⟨.entity, ·⟩) (⟨.aggregate, ·⟩)⟩

theorem endName_eq {id : NodeId} {name : String} (h : g.name? id = some name) :
    Terminal.endName g id = name := by
  rw [Terminal.endName, h]

/-- A report has no error exactly when every edge leads to a block of a kind it may lead to, and
then every edge is shown with the names of both ends. -/
theorem no_error_iff_edges_connect (g : Graph) :
    (g.report.errors = 0 ↔ ∀ e ∈ g.edges, g.Connects e) ∧
      (g.report.errors = 0 → ∀ e ∈ g.edges, ∃ source target,
        g.name? e.source = some source ∧ g.name? e.target = some target ∧
          Terminal.edgeLine g e = source ++ " --" ++ e.kind.label ++ "--> " ++ target) := by
  refine ⟨g.errors_report_eq_zero_iff, fun herrors e he => ?_⟩
  obtain ⟨⟨k, hsource⟩, l, htarget⟩ :=
    exists_kinds_of_connects he (g.errors_report_eq_zero_iff.mp herrors e he)
  obtain ⟨source, hsource⟩ := Option.isSome_iff_exists.mp (isSome_name? hsource)
  obtain ⟨target, htarget⟩ := Option.isSome_iff_exists.mp (isSome_name? htarget)
  refine ⟨source, target, hsource, htarget, ?_⟩
  rw [Terminal.edgeLine, endName_eq hsource, endName_eq htarget]

theorem no_error_iff_edges_connect_of_starter : starter.report.errors = 0 ∧
    starter.edges.length = 3 ∧ ∀ e ∈ starter.edges, ∃ source target,
      starter.name? e.source = some source ∧ starter.name? e.target = some target ∧
        Terminal.edgeLine starter e = source ++ " --" ++ e.kind.label ++ "--> " ++ target := by
  have herrors : starter.report.errors = 0 := by decide
  exact ⟨herrors, by decide, (no_error_iff_edges_connect starter).2 herrors⟩

/-- A missing root that is also a member makes one edge and two errors. -/
example :
    let g := { empty "Trips" with
      aggregates := [⟨⟨"trip"⟩, "Trip", ⟨"ride"⟩, [⟨"ride"⟩], ["Has a driver"]⟩] }
    g.edges = [⟨⟨"ride"⟩, ⟨"trip"⟩, .root⟩] ∧ g.report.errors = 2 := by decide

end Graph

end Blueprint
