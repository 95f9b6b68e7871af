import Blueprint.Proofs.Graph.Renaming
import Blueprint.Proofs.Language.Resolution
import Blueprint.Proofs.Language.Shown

/-!
# Sources under renaming

Sources show names and never identifiers, so a graph whose identifiers are renamed has the same
sources. With the lookups, edges and findings of a renamed graph this makes identifiers mere labels.
-/

namespace Blueprint.CSharp

section Renamed

variable {r : NodeId → NodeId} (hr : Function.Injective r) (g : Graph)
include hr

theorem nameIn?_rename (k : Kind) (id : NodeId) :
    (g.rename r).nameIn? k (r id) = g.nameIn? k id := by
  rw [Graph.nameIn?, Graph.nameIn?, Graph.find?_rename hr, Option.map_map]
  congr 1
  funext n
  exact Kind.nodeName_rename r k n

theorem shownField_rename (f : EntityField) :
    shownField (g.rename r) (f.rename r) = shownField g f := by
  cases f with
  | primitive name type => rfl
  | valueObject name target => exact congrArg (·, name) (nameIn?_rename hr g .valueObject target)

theorem dependencies_rename (u : UseCase) :
    dependencies (g.rename r) (Kind.rename r .useCase u) = dependencies g u := by
  rw [dependencies, Kind.rename, List.filterMap_map]
  exact List.filterMap_congr fun id _ => nameIn?_rename hr g .repository id

theorem shown_rename (k : Kind) (n : k.Node) :
    shown (g.rename r) k (k.rename r n) = shown g k n := by
  cases k with
  | valueObject => rfl
  | repository => rfl
  | entity =>
      have hfields : ((Entity.fields n).map (EntityField.rename r)).map (shownField (g.rename r)) =
          (Entity.fields n).map (shownField g) := by
        rw [List.map_map]
        exact List.map_congr_left fun f _ => shownField_rename hr g f
      exact congrArg (Shown.entity _ _) hfields
  | aggregate =>
      exact congrArg (Shown.aggregate _ _) (nameIn?_rename hr g .entity (Aggregate.root n))
  | useCase => exact congrArg (Shown.useCase _ _ _) (dependencies_rename hr g n)

theorem sources_rename : (g.rename r).sources .csharp = g.sources .csharp := by
  rw [Graph.sources, Graph.sources]
  refine List.flatMap_congr fun k _ => ?_
  rw [Graph.kindSources, Graph.kindSources, Graph.nodes_rename, List.map_map]
  exact List.map_congr_left fun n _ => file_congr (shown_rename hr g k n)

/-- Identifiers are mere labels: renaming them leaves the sources as they are, puts the new ones
into findings and edges, and takes the kinds and names of blocks along. -/
theorem rename_changes_identifiers_only :
    (g.rename r).sources .csharp = g.sources .csharp ∧
      g.report.findings = g.issues.map (fun (id, i) => ⟨id, i.message, i.severity⟩) ∧
      (g.rename r).report.findings =
        g.issues.map (fun (id, i) => ⟨r id, (i.rename r).message, i.severity⟩) ∧
      (g.rename r).edges = g.edges.map (fun e => ⟨r e.source, r e.target, e.kind⟩) ∧
      ∀ id, (g.rename r).kind? (r id) = g.kind? id ∧ (g.rename r).name? (r id) = g.name? id :=
  ⟨sources_rename hr g, rfl, g.findings_report_rename hr, g.edges_rename hr,
    fun id => ⟨g.kind?_rename hr id, g.name?_rename hr id⟩⟩

end Renamed

def prefixed (id : NodeId) : NodeId := ⟨"old-" ++ id.text⟩

theorem prefixed_injective : Function.Injective prefixed := by
  intro a b h
  have htext := congrArg (fun id => (NodeId.text id).toList) h
  rw [prefixed, prefixed, String.toList_append, String.toList_append] at htext
  cases a
  cases b
  exact congrArg NodeId.mk (String.toList_injective (List.append_cancel_left htext))

/-- The message about the missing fare quotes the new identifier, the source of the ride does not
change. -/
theorem rename_changes_identifiers_only_of_fare :
    Function.Injective prefixed ∧
      ((fares []).rename prefixed).sources .csharp = (fares []).sources .csharp ∧
      ⟨⟨"old-entity-1"⟩, "Value Object old-vo-1 not found for field Fare", .error⟩ ∈
        ((fares []).rename prefixed).report.findings ∧
      ((fares []).rename prefixed).name? ⟨"old-entity-1"⟩ = some "Ride" := by
  obtain ⟨hsources, -, hfindings, -, hlookups⟩ :=
    rename_changes_identifiers_only prefixed_injective (fares [])
  refine ⟨prefixed_injective, hsources, ?_, (hlookups ⟨"entity-1"⟩).2.trans ?_⟩
  · rw [hfindings]
    decide
  · decide

end Blueprint.CSharp
