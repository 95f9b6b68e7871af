import Blueprint.Proofs.Graph.Validation
import Blueprint.Proofs.Keyed
import Blueprint.Proofs.Language.Resolution
import Blueprint.Proofs.Language.Shown
import Mathlib.Data.List.FinRange
import Mathlib.Data.List.Perm.Basic

/-!
# Order of blocks

While identifiers are distinct within each kind, a lookup finds the same block in whatever order
the blocks stand. So every block keeps its source when the collections are rearranged, the sources
are rearranged like the blocks, and a report says the same in another order.
-/

namespace Blueprint

/-- The list with its entries at other places. -/
def rearranged {α : Type} (as : List α) (π : Equiv.Perm (Fin as.length)) : List α :=
  List.ofFn (as.get ∘ π)

theorem rearranged_perm {α : Type} (as : List α) (π : Equiv.Perm (Fin as.length)) :
    (rearranged as π).Perm as := by
  have h := π.ofFn_comp_perm as.get
  rwa [List.ofFn_get] at h

namespace Graph

open CSharp
open Blueprint.Language (csharp)

/-! ### Graphs with the same blocks -/

section SameBlocks

variable {g h : Graph} (hblocks : ∀ k, (g.nodes k).Perm (h.nodes k))
include hblocks

theorem dangles_iff_of_perm (r : Reference) : g.Dangles r ↔ h.Dangles r := by
  have hids (k : Kind) (id : NodeId) : id ∈ g.ids k ↔ id ∈ h.ids k :=
    ((hblocks k).map k.nodeId).mem_iff
  simp only [Dangles, hids]

theorem findings_perm_of_perm : g.report.findings.Perm h.report.findings := by
  rw [findings_report, findings_report]
  refine List.Perm.flatMap_left _ fun k _ => ?_
  refine (hblocks k).flatMap fun n _ => ?_
  simp only [nodeFindings, dangles_iff_of_perm hblocks]
  exact List.Perm.refl _

theorem file_eq_of_perm (hids : ∀ k, (h.ids k).Nodup) (k : Kind) (n : k.Node) :
    csharp.file g k n = csharp.file h k n := by
  refine file_congr (shown_congr fun r _ => ?_)
  rw [nameIn?, nameIn?, find?, find?, Keyed.find?_eq_of_perm (hblocks r.1) (hids r.1)]

end SameBlocks

/-! ### Rearranged graphs -/

/-- A permutation of the places of each kind. -/
abbrev Rearrangement (g : Graph) : Type := (k : Kind) → Equiv.Perm (Fin (g.nodes k).length)

variable (g : Graph) (π : g.Rearrangement)

def rearrange : Graph :=
  ⟨rearranged g.valueObjects (π .valueObject), rearranged g.entities (π .entity),
    rearranged g.aggregates (π .aggregate), rearranged g.repositories (π .repository),
    rearranged g.useCases (π .useCase), g.heading⟩

theorem nodes_rearrange (k : Kind) : (g.rearrange π).nodes k = rearranged (g.nodes k) (π k) := by
  cases k <;> rfl

/-- The source of the block at a place. -/
def fileAt (k : Kind) (i : Fin (g.nodes k).length) : SourceFile :=
  csharp.file g k ((g.nodes k).get i)

theorem sources_eq_ofFn :
    g.sources csharp = Kind.all.flatMap fun k => List.ofFn (g.fileAt k) := by
  refine List.flatMap_congr fun k _ => ?_
  have hmap : (List.ofFn (g.nodes k).get).map (csharp.file g k) = List.ofFn (g.fileAt k) :=
    List.map_ofFn ..
  rw [← hmap, List.ofFn_get, kindSources]

/-- Of a graph whose identifiers are distinct within each kind, a rearrangement of the blocks
rearranges the sources in the same way, kind by kind, and changes nothing of a report but the
order of its findings. -/
theorem rearrange_takes_sources_along (hids : ∀ k, (g.ids k).Nodup) :
    g.sources csharp = Kind.all.flatMap (fun k => List.ofFn (g.fileAt k)) ∧
      (g.rearrange π).sources csharp =
        Kind.all.flatMap (fun k => List.ofFn (g.fileAt k ∘ π k)) ∧
      (g.rearrange π).report.findings.Perm g.report.findings := by
  have hblocks (k : Kind) : ((g.rearrange π).nodes k).Perm (g.nodes k) := by
    rw [nodes_rearrange]
    exact rearranged_perm _ _
  refine ⟨g.sources_eq_ofFn, List.flatMap_congr fun k _ => ?_, findings_perm_of_perm hblocks⟩
  rw [kindSources, nodes_rearrange, rearranged, List.map_ofFn]
  exact congrArg List.ofFn (funext fun i => file_eq_of_perm hblocks hids k _)

/-- The fare of a ride, and two value objects without fields. -/
def tipsAndTolls : Graph :=
  fares [⟨⟨"vo-1"⟩, "Money", [⟨"Amount", .decimal⟩]⟩, ⟨⟨"vo-2"⟩, "Tip", []⟩,
    ⟨⟨"vo-3"⟩, "Toll", []⟩]

/-- Backwards, the value objects have their sources backwards, and the ride after them still shows
the fare that now stands last. -/
theorem rearrange_takes_sources_along_of_tipsAndTolls :
    let g := tipsAndTolls
    let back := g.rearrange fun _ => Fin.revPerm
    (∀ k, (g.ids k).Nodup) ∧
      (back.sources csharp).take 3 = ((g.sources csharp).take 3).reverse ∧
      (back.sources csharp)[3]? = some (csharp.file g .entity fareRide) ∧
      back.report.findings.Perm g.report.findings := by
  intro g back
  have hids : ∀ k, (g.ids k).Nodup := by
    intro k
    cases k <;> decide
  obtain ⟨hsources, hback, hfindings⟩ := rearrange_takes_sources_along g (fun _ => Fin.revPerm) hids
  refine ⟨hids, ?_, ?_, hfindings⟩
  · rw [hback, hsources]
    rfl
  · rw [hback]
    rfl

end Graph

end Blueprint
