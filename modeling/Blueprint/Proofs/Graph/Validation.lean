import Blueprint.Proofs.Graph.Reference
import Mathlib.Data.List.Basic

/-!
# Reports are exact

A report holds one error for each reference that dangles and one warning for each list that should
not be empty, under the identifier of the block that has it, kind by kind and block by block.
`WellFormed` says in plain terms when there is nothing to report.
-/

namespace Blueprint

namespace Graph

variable (g : Graph)

/-- What a report says about one block. -/
def nodeFindings (k : Kind) (n : k.Node) : List Finding :=
  ((k.references n).filter (g.Dangles ·)).map (fun r => ⟨k.nodeId n, r.issue.message, .error⟩) ++
    (k.gap? n).toList.map fun i => ⟨k.nodeId n, i.message, .warning⟩

def kindFindings (k : Kind) : List Finding := (g.nodes k).flatMap (g.nodeFindings k)

theorem map_finding_nodeIssues (k : Kind) (n : k.Node) :
    (g.nodeIssues k n).map (Issue.finding (k.nodeId n)) = g.nodeFindings k n := by
  rw [nodeIssues_eq, List.map_append, List.map_map, nodeFindings]
  congr 1
  · refine List.map_congr_left fun r hr => ?_
    rw [Function.comp_apply, Issue.finding,
      Kind.severity_of_mem_references (List.mem_filter.mp hr).1]
  · refine List.map_congr_left fun i hi => ?_
    rw [Issue.finding, Kind.severity_of_gap? (Option.mem_toList.mp hi)]

theorem findings_report : g.report.findings = checkOrder.flatMap g.kindFindings := by
  rw [report, issues, List.map_flatMap]
  refine List.flatMap_congr fun k _ => ?_
  rw [kindIssues, List.map_flatMap, kindFindings]
  refine List.flatMap_congr fun n _ => ?_
  rw [List.map_map, ← map_finding_nodeIssues]
  rfl

/-! ### Counting -/

theorem countP_error_nodeFindings (k : Kind) (n : k.Node) :
    (g.nodeFindings k n).countP (·.severity == .error) =
      (k.references n).countP (g.Dangles ·) := by
  rw [nodeFindings, List.countP_append, List.countP_map, List.countP_map,
    List.countP_eq_length_filter (p := fun r => decide (g.Dangles r))]
  simp [Function.comp_def]

theorem countP_warning_nodeFindings (k : Kind) (n : k.Node) :
    (g.nodeFindings k n).countP (·.severity == .warning) = (k.gap? n).toList.length := by
  rw [nodeFindings, List.countP_append, List.countP_map, List.countP_map]
  simp [Function.comp_def]

theorem countP_error_kindFindings (k : Kind) :
    (g.kindFindings k).countP (·.severity == .error) =
      ((g.nodes k).flatMap k.references).countP (g.Dangles ·) := by
  rw [kindFindings, List.countP_flatMap, List.countP_flatMap]
  congr 1
  exact List.map_congr_left fun n _ => g.countP_error_nodeFindings k n

theorem countP_warning_kindFindings (k : Kind) :
    (g.kindFindings k).countP (·.severity == .warning) =
      (g.nodes k).countP fun n => (k.gap? n).isSome := by
  rw [kindFindings, List.countP_flatMap, ← List.length_filterMap_eq_countP,
    List.filterMap_eq_flatMap_toList, List.length_flatMap]
  congr 1
  exact List.map_congr_left fun n _ => g.countP_warning_nodeFindings k n

theorem flatMap_references :
    (checkOrder.flatMap fun k => (g.nodes k).flatMap k.references) = g.references := by
  have hvalues : g.valueObjects.flatMap (Kind.references .valueObject) = [] :=
    List.flatMap_eq_nil_iff.mpr fun _ _ => rfl
  have hrepositories : g.repositories.flatMap (Kind.references .repository) = [] :=
    List.flatMap_eq_nil_iff.mpr fun _ _ => rfl
  simp only [checkOrder, List.flatMap_cons, List.flatMap_nil, nodes, hvalues, hrepositories,
    List.append_nil, references, List.append_assoc]
  rfl

theorem errors_report : g.report.errors = g.references.countP (g.Dangles ·) := by
  rw [Report.errors, Report.count, findings_report, ← flatMap_references, List.countP_flatMap,
    List.countP_flatMap]
  congr 1
  exact List.map_congr_left fun k _ => g.countP_error_kindFindings k

theorem warnings_report : g.report.warnings =
    g.aggregates.countP (·.invariants = []) + g.valueObjects.countP (·.fields = []) +
      g.repositories.countP (·.methods = []) := by
  have hsome (p : Prop) [Decidable p] (i : Issue) :
      (if p then some i else none).isSome = decide p := by
    by_cases h : p <;> simp [h]
  rw [Report.warnings, Report.count, findings_report, List.countP_flatMap]
  simp [checkOrder, countP_warning_kindFindings, nodes, Kind.gap?, hsome, Nat.add_assoc]

/-! ### Graphs without findings -/

theorem finding_mem_report {k : Kind} {n : k.Node} (hn : n ∈ g.nodes k) {i : Issue}
    (hi : i ∈ g.nodeIssues k n) : i.finding (k.nodeId n) ∈ g.report.findings := by
  have hkind : k ∈ checkOrder := by cases k <;> decide
  rw [findings_report]
  refine List.mem_flatMap.mpr ⟨k, hkind, List.mem_flatMap.mpr ⟨n, hn, ?_⟩⟩
  rw [← map_finding_nodeIssues]
  exact List.mem_map_of_mem hi

theorem severity_ne_error_of_errors_eq_zero (h : g.report.errors = 0) {k : Kind} {n : k.Node}
    (hn : n ∈ g.nodes k) {i : Issue} (hi : i ∈ g.nodeIssues k n) : i.severity ≠ .error := by
  have hnone := List.countP_eq_zero.mp h _ (g.finding_mem_report hn hi)
  simpa [Issue.finding] using hnone

/-- Every reference resolves and nothing that should hold something is empty. -/
structure WellFormed : Prop where
  entities : ∀ a ∈ g.aggregates, ∀ id ∈ a.root :: a.members, id ∈ g.ids .entity
  repositories : ∀ u ∈ g.useCases, ∀ id ∈ u.repositories, id ∈ g.ids .repository
  targets : ∀ u ∈ g.useCases, ∀ id ∈ u.reads ++ u.writes,
    id ∈ g.ids .entity ∨ id ∈ g.ids .aggregate
  valueObjects : ∀ e ∈ g.entities, ∀ id ∈ e.targets, id ∈ g.ids .valueObject
  invariants : ∀ a ∈ g.aggregates, a.invariants ≠ []
  fields : ∀ v ∈ g.valueObjects, v.fields ≠ []
  methods : ∀ r ∈ g.repositories, r.methods ≠ []

theorem fails_error_iff : g.report.fails .error ↔ ∃ r ∈ g.references, g.Dangles r := by
  have herror (f : Finding) : f.severity.atLeast .error = (f.severity == .error) := by
    cases f.severity <;> rfl
  have hpos : g.report.fails .error ↔ 0 < g.report.errors := by
    simp [Report.fails, Report.errors, Report.count, herror, List.countP_pos_iff]
  rw [hpos, errors_report, List.countP_pos_iff]
  simp

theorem findings_eq_nil_iff :
    g.report.findings = [] ↔ g.report.errors = 0 ∧ g.report.warnings = 0 := by
  have hlength : g.report.findings.length = g.report.errors + g.report.warnings := by
    rw [List.length_eq_countP_add_countP (·.severity == .error), Report.errors, Report.warnings,
      Report.count, Report.count]
    congr 2
    funext f
    cases f.severity <;> rfl
  rw [← List.length_eq_zero_iff, hlength, Nat.add_eq_zero_iff]

theorem forall_mem_references_iff {p : Reference → Prop} : (∀ r ∈ g.references, p r) ↔
    (∀ a ∈ g.aggregates, ∀ r ∈ a.references, p r) ∧
      (∀ u ∈ g.useCases, ∀ r ∈ u.references, p r) ∧
      ∀ e ∈ g.entities, ∀ r ∈ e.references, p r := by
  simp only [references, List.mem_append, List.mem_flatMap, or_imp, forall_and, and_assoc,
    forall_exists_index, and_imp]
  constructor
  · rintro ⟨ha, hu, he⟩
    exact ⟨fun a h r hr => ha r a h hr, fun u h r hr => hu r u h hr, fun e h r hr => he r e h hr⟩
  · rintro ⟨ha, hu, he⟩
    exact ⟨fun r a h hr => ha a h r hr, fun r u h hr => hu u h r hr, fun r e h hr => he e h r hr⟩

theorem not_dangles_iff {r : Reference} : ¬ g.Dangles r ↔ ∃ k ∈ r.kinds, r.target ∈ g.ids k := by
  simp [Dangles]

theorem forall_not_dangles_aggregate_iff (a : Aggregate) :
    (∀ r ∈ a.references, ¬ g.Dangles r) ↔ ∀ id ∈ a.root :: a.members, id ∈ g.ids .entity := by
  simp [Aggregate.references, not_dangles_iff]

theorem forall_not_dangles_useCase_iff (u : UseCase) : (∀ r ∈ u.references, ¬ g.Dangles r) ↔
    (∀ id ∈ u.repositories, id ∈ g.ids .repository) ∧
      ∀ id ∈ u.reads ++ u.writes, id ∈ g.ids .entity ∨ id ∈ g.ids .aggregate := by
  simp [UseCase.references, not_dangles_iff, or_imp, forall_and]

theorem forall_not_dangles_entity_iff (e : Entity) :
    (∀ r ∈ e.references, ¬ g.Dangles r) ↔ ∀ id ∈ e.targets, id ∈ g.ids .valueObject := by
  simp only [Entity.references, Entity.targets, List.mem_filterMap, not_dangles_iff]
  constructor
  · rintro h id ⟨f, hf, hid⟩
    cases f <;> cases hid
    obtain ⟨k, hk, hmem⟩ := h _ ⟨_, hf, rfl⟩
    rwa [List.mem_singleton.mp hk] at hmem
  · rintro h r ⟨f, hf, hr⟩
    cases f <;> cases hr
    exact ⟨.valueObject, List.mem_cons_self, h _ ⟨_, hf, rfl⟩⟩

theorem findings_eq_nil_iff_wellFormed : g.report.findings = [] ↔ g.WellFormed := by
  rw [findings_eq_nil_iff, errors_report, warnings_report]
  simp only [Nat.add_eq_zero_iff, List.countP_eq_zero, decide_eq_true_eq,
    forall_mem_references_iff, forall_not_dangles_aggregate_iff, forall_not_dangles_useCase_iff,
    forall_not_dangles_entity_iff]
  constructor
  · rintro ⟨⟨hentities, huseCases, hvalues⟩, ⟨hinvariants, hfields⟩, hmethods⟩
    exact ⟨hentities, fun u hu => (huseCases u hu).1, fun u hu => (huseCases u hu).2, hvalues,
      hinvariants, hfields, hmethods⟩
  · intro h
    exact ⟨⟨h.entities, fun u hu => ⟨h.repositories u hu, h.targets u hu⟩, h.valueObjects⟩,
      ⟨h.invariants, h.fields⟩, h.methods⟩

/-- A report counts and places every dangling reference and every gap, and nothing else. -/
theorem report_exact (g : Graph) :
    g.report.errors = g.references.countP (g.Dangles ·) ∧
      g.report.warnings = g.aggregates.countP (·.invariants = []) +
        g.valueObjects.countP (·.fields = []) + g.repositories.countP (·.methods = []) ∧
      g.report.findings = [.aggregate, .useCase, .entity, .valueObject, .repository].flatMap
        (fun k => (g.nodes k).flatMap fun n =>
          ((k.references n).filter (g.Dangles ·)).map
              (fun r => ⟨k.nodeId n, r.issue.message, .error⟩) ++
            (k.gap? n).toList.map fun i => ⟨k.nodeId n, i.message, .warning⟩) ∧
      (g.report.isClean ↔ g.WellFormed) ∧
      (g.report.fails .error ↔ ∃ r ∈ g.references, g.Dangles r) := by
  refine ⟨g.errors_report, g.warnings_report, g.findings_report, ?_, g.fails_error_iff⟩
  rw [Report.isClean, List.isEmpty_iff]
  exact g.findings_eq_nil_iff_wellFormed

end Graph

end Blueprint
