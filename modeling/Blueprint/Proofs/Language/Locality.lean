import Blueprint.Proofs.Graph.Blocks
import Blueprint.Proofs.Language.Resolution
import Blueprint.Proofs.Language.Shown
import Mathlib.Data.List.Forall2

/-!
# Sources after a change

A change of one block can be seen in the source of another only where that source shows its name.
`Graph.blocks` lists the blocks in the order of their sources, so that the sources before and after
a change are compared place by place.
-/

namespace Blueprint

section Forall2

variable {α β : Type} {R : α → β → Prop} {as : List α} {bs : List β}

theorem exists_getElem?_of_forall₂ (h : List.Forall₂ R as bs) {i : Nat} {a : α}
    (ha : as[i]? = some a) : ∃ b, bs[i]? = some b ∧ R a b := by
  induction h generalizing i with
  | nil => cases ha
  | @cons a' b as bs hab _ ih =>
      cases i with
      | zero =>
          rw [List.getElem?_cons_zero, Option.some.injEq] at ha
          exact ⟨b, rfl, ha ▸ hab⟩
      | succ i => exact ih ha

end Forall2

theorem SourceFile.eq_of_path_of_content {f g : SourceFile} (hpath : f.path = g.path)
    (hcontent : f.content = g.content) : f = g := by
  cases f
  cases g
  simp_all

/-! ### Changed blocks -/

namespace Kind

variable (k : Kind) (id : NodeId) (f : k.Node → k.Node)

theorem find?_patch (ns : List k.Node) : (k.patch id f ns).find? (k.nodeId · == id) =
    (ns.find? (k.nodeId · == id)).map fun n => k.withId id (f n) := by
  induction ns with
  | nil => rfl
  | cons n ns ih =>
      rw [patch]
      by_cases hn : k.nodeId n = id
      · simp [hn]
      · simp [hn, ih]

theorem find?_patch_of_ne {id other : NodeId} (h : other ≠ id) (ns : List k.Node) :
    (k.patch id f ns).find? (k.nodeId · == other) = ns.find? (k.nodeId · == other) := by
  induction ns with
  | nil => rfl
  | cons n ns ih =>
      rw [patch]
      by_cases hn : k.nodeId n = id
      · simp [hn, h.symm]
      · rw [if_neg hn, List.find?_cons, List.find?_cons, ih]

/-- Only the block with the identifier changes, and it keeps its place. -/
theorem forall₂_patch (ns : List k.Node) :
    List.Forall₂ (fun n n' => k.nodeId n ≠ id → n' = n) ns (k.patch id f ns) := by
  induction ns with
  | nil => exact .nil
  | cons n ns ih =>
      rw [patch]
      split_ifs with hn
      · exact .cons (fun h => absurd hn h) (List.forall₂_same.mpr fun _ _ _ => rfl)
      · exact .cons (fun _ => rfl) ih

end Kind

namespace Graph

/-- The blocks of a graph in the order of their sources. -/
def blocks (g : Graph) : List Block := Kind.all.flatMap fun k => (g.nodes k).map (Block.mk k)

variable (g : Graph)

theorem sources_eq (l : Language) :
    g.sources l = g.blocks.map fun b => l.file g b.kind b.node := by
  rw [sources, blocks, List.map_flatMap]
  refine List.flatMap_congr fun k _ => ?_
  rw [List.map_map]
  rfl

variable (k : Kind) (id : NodeId) (f : k.Node → k.Node)

theorem nameIn?_update : (g.update k id f).nameIn? k id =
    (g.find? k id).map fun n => k.nodeName (f n) := by
  rw [nameIn?, find?, update, nodes_setNodes, Kind.find?_patch, Option.map_map]
  congr 1
  funext n
  exact Kind.nodeName_withId k id (f n)

theorem nameIn?_update_of_ne {l : Kind} {other : NodeId} (h : (l, other) ≠ (k, id)) :
    (g.update k id f).nameIn? l other = g.nameIn? l other := by
  rw [nameIn?, nameIn?, find?, update, find?]
  by_cases hl : l = k
  · subst hl
    have hother : other ≠ id := fun hid => h (hid ▸ rfl)
    rw [nodes_setNodes, Kind.find?_patch_of_ne l f hother]
  · rw [nodes_setNodes_of_ne g hl]

theorem nameIn?_update_of_name
    (hname : ∀ n, g.find? k id = some n → k.nodeName (f n) = k.nodeName n) (l : Kind)
    (other : NodeId) : (g.update k id f).nameIn? l other = g.nameIn? l other := by
  by_cases h : (l, other) = (k, id)
  · obtain ⟨rfl, rfl⟩ := Prod.mk.inj h
    rw [nameIn?_update, nameIn?]
    cases hfind : g.find? l other with
    | none => rfl
    | some n => exact congrArg some (hname n hfind)
  · exact g.nameIn?_update_of_ne k id f h

theorem forall₂_blocks_update : List.Forall₂
    (fun b b' => ¬ (b.kind = k ∧ b.id = id) → b' = b) g.blocks (g.update k id f).blocks := by
  refine List.rel_flatMap (R := (· = ·)) (List.forall₂_same.mpr fun _ _ => rfl) ?_
  rintro l _ rfl
  rw [List.forall₂_map_left_iff, List.forall₂_map_right_iff, update]
  by_cases hl : l = k
  · subst hl
    rw [nodes_setNodes]
    refine (Kind.forall₂_patch l id f (g.nodes l)).imp fun n n' hn hb => ?_
    rw [hn fun hid => hb ⟨rfl, hid⟩]
  · rw [nodes_setNodes_of_ne g hl]
    exact List.forall₂_same.mpr fun _ _ _ => rfl

end Graph

namespace CSharp

open Blueprint.Language (csharp)

/-- A change of a block leaves the other sources at their places and paths. Only those that show
the name of the block may read otherwise, and they do not when the block keeps its name. -/
theorem sources_update (g : Graph) (k : Kind) (id : NodeId) (f : k.Node → k.Node) :
    ((g.update k id f).sources csharp).length = (g.sources csharp).length ∧
      ∀ (i : Nat) (b : Block), g.blocks[i]? = some b → ¬ (b.kind = k ∧ b.id = id) →
        ∃ old new : SourceFile, (g.sources csharp)[i]? = some old ∧
          ((g.update k id f).sources csharp)[i]? = some new ∧
          old = csharp.file g b.kind b.node ∧ new.path = old.path ∧
          ((k, id) ∉ b.kind.named b.node → new.content = old.content) ∧
          ((∀ n, g.find? k id = some n → k.nodeName (f n) = k.nodeName n) →
            new.content = old.content) := by
  have hblocks := g.forall₂_blocks_update k id f
  rw [g.sources_eq, (g.update k id f).sources_eq]
  refine ⟨by simp [hblocks.length_eq], fun i b hb hother => ?_⟩
  obtain ⟨b', hb', heq⟩ := exists_getElem?_of_forall₂ hblocks hb
  obtain rfl := heq hother
  refine ⟨csharp.file g b'.kind b'.node, csharp.file (g.update k id f) b'.kind b'.node,
    ?_, ?_, rfl, rfl, fun hnamed => ?_, fun hname => ?_⟩
  · rw [List.getElem?_map, hb, Option.map_some]
  · rw [List.getElem?_map, hb', Option.map_some]
  · refine emit_congr (shown_congr fun r hr => g.nameIn?_update_of_ne k id f ?_)
    intro heq
    have hr' : (r.1, r.2) ∈ b'.kind.named b'.node := hr
    exact hnamed (heq ▸ hr')
  · exact emit_congr (shown_congr fun r _ => g.nameIn?_update_of_name k id f hname r.1 r.2)

/-- The ride shows the fare's name: its source stays when the fare gets one more field and changes
when the fare gets another name, which the source of the aggregate does not show. -/
theorem sources_update_of_fare :
    let g := fares Graph.starter.valueObjects
    let tipped := g.update .valueObject ⟨"vo-1"⟩ fun v : ValueObject =>
      { v with fields := ⟨"Tip", .decimal⟩ :: v.fields }
    let renamed := g.update .valueObject ⟨"vo-1"⟩ fun v : ValueObject => { v with name := "Toll" }
    (tipped.sources csharp)[1]? = (g.sources csharp)[1]? ∧
      (renamed.sources csharp)[1]? ≠ (g.sources csharp)[1]? ∧
      (renamed.sources csharp)[2]? = (g.sources csharp)[2]? := by
  intro g tipped renamed
  obtain ⟨-, htipped⟩ := sources_update g .valueObject ⟨"vo-1"⟩ fun v : ValueObject =>
    { v with fields := ⟨"Tip", .decimal⟩ :: v.fields }
  obtain ⟨-, hrenamed⟩ := sources_update g .valueObject ⟨"vo-1"⟩ fun v : ValueObject =>
    { v with name := "Toll" }
  refine ⟨?_, by decide +kernel, ?_⟩
  · obtain ⟨old, new, hold, hnew, -, hpath, -, hcontent⟩ :=
      htipped 1 ⟨.entity, fareRide⟩ rfl (by decide)
    rw [hold, hnew, SourceFile.eq_of_path_of_content hpath (hcontent fun _ _ => rfl)]
  · obtain ⟨old, new, hold, hnew, -, hpath, hcontent, -⟩ :=
      hrenamed 2 ⟨.aggregate, _⟩ rfl (by decide)
    rw [hold, hnew, SourceFile.eq_of_path_of_content hpath (hcontent (by decide))]

end CSharp

end Blueprint
