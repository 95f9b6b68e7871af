import Blueprint.Graph.Edit
import Mathlib.Data.List.Basic
import Mathlib.Data.List.Nodup

/-!
# Graphs of blocks

A list of blocks of all kinds gives a graph, with the blocks of each kind in their order. Edits of
such a graph and answers to its lookups are read off the list, as long as its identifiers differ.
-/

namespace Blueprint

/-- A block with its kind. -/
structure Block where
  kind : Kind
  node : kind.Node

namespace Block

def id (b : Block) : NodeId := b.kind.nodeId b.node

def name (b : Block) : String := b.kind.nodeName b.node

/-- The block as one of a kind. -/
def node? (k : Kind) (b : Block) : Option k.Node :=
  if h : b.kind = k then some (h ▸ b.node) else none

/-- Changes a block of the kind and the identifier, which it keeps. -/
def update (k : Kind) (id : NodeId) (f : k.Node → k.Node) (b : Block) : Block :=
  match b.node? k with
  | some n => if k.nodeId n = id then ⟨k, k.withId id (f n)⟩ else b
  | none => b

variable (b : Block)

/-- A block is of a kind, with a node of its type, or it is of another kind. -/
theorem eq_mk_or_kind_ne (k : Kind) : (∃ n, b = ⟨k, n⟩) ∨ b.kind ≠ k := by
  by_cases hk : b.kind = k
  · subst hk
    exact .inl ⟨b.node, rfl⟩
  · exact .inr hk

@[simp] theorem node?_self (k : Kind) (n : k.Node) : (Block.mk k n).node? k = some n := by
  simp [node?]

theorem node?_of_ne {k : Kind} (h : b.kind ≠ k) : b.node? k = none := by simp [node?, h]

theorem isSome_node? (k : Kind) : (b.node? k).isSome = (b.kind == k) := by
  by_cases h : b.kind = k <;> simp [node?, h]

theorem update_self (k : Kind) (n : k.Node) (id : NodeId) (f : k.Node → k.Node) :
    (Block.mk k n).update k id f = if k.nodeId n = id then ⟨k, k.withId id (f n)⟩ else ⟨k, n⟩ := by
  rw [update, node?_self]

theorem update_of_kind_ne {k : Kind} (h : b.kind ≠ k) (id : NodeId) (f : k.Node → k.Node) :
    b.update k id f = b := by
  rw [update, node?_of_ne b h]

theorem id_update (k : Kind) (id : NodeId) (f : k.Node → k.Node) : (b.update k id f).id = b.id := by
  obtain ⟨n, rfl⟩ | hk := b.eq_mk_or_kind_ne k
  · rw [update_self]
    split_ifs with hid
    · exact (Kind.nodeId_withId _ id _).trans hid.symm
    · rfl
  · rw [update_of_kind_ne b hk]

theorem update_of_id_ne {id : NodeId} (h : b.id ≠ id) (k : Kind) (f : k.Node → k.Node) :
    b.update k id f = b := by
  obtain ⟨n, rfl⟩ | hk := b.eq_mk_or_kind_ne k
  · rw [update_self]
    exact if_neg h
  · exact update_of_kind_ne b hk id f

theorem kind_update (k : Kind) (id : NodeId) (f : k.Node → k.Node) :
    (b.update k id f).kind = b.kind := by
  obtain ⟨n, rfl⟩ | hk := b.eq_mk_or_kind_ne k
  · rw [update_self]
    split_ifs <;> rfl
  · rw [update_of_kind_ne b hk]

theorem node?_update_of_ne {k l : Kind} (h : l ≠ k) (id : NodeId) (f : k.Node → k.Node) :
    (b.update k id f).node? l = b.node? l := by
  by_cases hk : b.kind = k
  · have hl : b.kind ≠ l := fun hl => h (hl.symm.trans hk)
    rw [node?_of_ne b hl, node?_of_ne _ ((b.kind_update k id f).trans_ne hl)]
  · rw [update_of_kind_ne b hk]

theorem map_node? (k : Kind) :
    (b.node? k).map k.nodeId = if b.kind == k then some b.id else none := by
  obtain ⟨n, rfl⟩ | hk := b.eq_mk_or_kind_ne k
  · rw [node?_self, if_pos (beq_self_eq_true _)]
    rfl
  · rw [node?_of_ne b hk, Option.map_none, if_neg (by simpa using hk)]

theorem filter_node? (k : Kind) (p : NodeId → Bool) :
    (b.node? k).filter (fun n => p (k.nodeId n)) = if p b.id then b.node? k else none := by
  obtain ⟨n, rfl⟩ | hk := b.eq_mk_or_kind_ne k
  · rw [node?_self, Option.filter_some]
    rfl
  · rw [node?_of_ne b hk, Option.filter_none, ite_self]

theorem id_ne_of_nodup_cons {b : Block} {bs : List Block} (h : ((b :: bs).map id).Nodup) :
    ∀ b' ∈ bs, b'.id ≠ b.id := by
  rw [List.map_cons, List.nodup_cons] at h
  intro b' hb' hid
  exact h.1 (List.mem_map.mpr ⟨b', hb', hid⟩)

end Block

/-- The graph of blocks in order. -/
def Graph.ofBlocks (heading : Heading) (bs : List Block) : Graph :=
  ⟨bs.filterMap (Block.node? .valueObject), bs.filterMap (Block.node? .entity),
    bs.filterMap (Block.node? .aggregate), bs.filterMap (Block.node? .repository),
    bs.filterMap (Block.node? .useCase), heading⟩

/-! ### Edits -/

section OfBlocks

variable (heading : Heading) (bs : List Block)

namespace Graph

theorem nodes_ofBlocks (k : Kind) :
    (ofBlocks heading bs).nodes k = bs.filterMap (Block.node? k) := by cases k <;> rfl

theorem eq_of_nodes {g h : Graph} (hnodes : ∀ k, g.nodes k = h.nodes k)
    (hheading : g.heading = h.heading) : g = h := by
  rcases g with ⟨vs, es, as, rs, us, _⟩
  rcases h with ⟨vs', es', as', rs', us', _⟩
  obtain rfl : vs = vs' := hnodes .valueObject
  obtain rfl : es = es' := hnodes .entity
  obtain rfl : as = as' := hnodes .aggregate
  obtain rfl : rs = rs' := hnodes .repository
  obtain rfl : us = us' := hnodes .useCase
  obtain rfl := hheading
  rfl

theorem insert_ofBlocks (k : Kind) (id : NodeId) (draft : k.Node) :
    (ofBlocks heading bs).insert k id draft =
      ofBlocks heading (bs ++ [⟨k, k.withId id draft⟩]) := by
  refine eq_of_nodes (fun l => ?_) (heading_setNodes _ k _)
  rw [insert, nodes_ofBlocks _ (bs ++ _), List.filterMap_append]
  by_cases hl : l = k
  · subst hl
    rw [nodes_setNodes, nodes_ofBlocks, List.filterMap_cons_some (Block.node?_self _ _),
      List.filterMap_nil]
  · rw [nodes_setNodes_of_ne _ hl, nodes_ofBlocks,
      List.filterMap_cons_none (Block.node?_of_ne _ (Ne.symm hl)), List.filterMap_nil,
      List.append_nil]

end Graph

/-- Of blocks with different identifiers, the first with an identifier is the only one. -/
theorem Kind.patch_filterMap_node? (k : Kind) (id : NodeId) (f : k.Node → k.Node) {bs : List Block}
    (hnodup : (bs.map Block.id).Nodup) : k.patch id f (bs.filterMap (Block.node? k)) =
      (bs.map (Block.update k id f)).filterMap (Block.node? k) := by
  induction bs with
  | nil => rfl
  | cons b bs ih =>
      rw [List.map_cons]
      obtain ⟨n, rfl⟩ | hk := b.eq_mk_or_kind_ne k
      · rw [List.filterMap_cons_some (Block.node?_self _ _), Block.update_self, Kind.patch]
        split_ifs with hid
        · have hrest : bs.map (Block.update k id f) = bs := by
            refine (List.map_congr_left fun b hb => ?_).trans (List.map_id' bs)
            apply Block.update_of_id_ne
            exact (Block.id_ne_of_nodup_cons hnodup b hb).trans_eq hid
          rw [List.filterMap_cons_some (Block.node?_self _ _), hrest]
        · rw [List.filterMap_cons_some (Block.node?_self _ _), ih hnodup.of_cons]
      · rw [Block.update_of_kind_ne _ hk, List.filterMap_cons_none (Block.node?_of_ne _ hk),
          List.filterMap_cons_none (Block.node?_of_ne _ hk), ih hnodup.of_cons]

namespace Graph

theorem update_ofBlocks (k : Kind) (id : NodeId) (f : k.Node → k.Node)
    (hnodup : (bs.map Block.id).Nodup) :
    (ofBlocks heading bs).update k id f = ofBlocks heading (bs.map (Block.update k id f)) := by
  refine eq_of_nodes (fun l => ?_) (heading_setNodes _ k _)
  rw [update, nodes_ofBlocks _ (bs.map _)]
  by_cases hl : l = k
  · subst hl
    rw [nodes_setNodes, nodes_ofBlocks, Kind.patch_filterMap_node? l id f hnodup]
  · rw [nodes_setNodes_of_ne _ hl, nodes_ofBlocks, List.filterMap_map]
    exact List.filterMap_congr fun b _ => (Block.node?_update_of_ne b hl id f).symm

theorem remove_ofBlocks (id : NodeId) :
    (ofBlocks heading bs).remove id = ofBlocks heading (bs.filter (·.id != id)) := by
  refine eq_of_nodes (fun k => ?_) (heading_keepIf _ _)
  rw [remove, nodes_keepIf, nodes_ofBlocks, nodes_ofBlocks, List.filter_filterMap,
    List.filterMap_filter]
  exact List.filterMap_congr fun b _ => Block.filter_node? b k (· != id)

/-! ### Lookups -/

theorem find?_ofBlocks (k : Kind) (id : NodeId) (hnodup : (bs.map Block.id).Nodup) :
    (ofBlocks heading bs).find? k id = (bs.find? (·.id == id)).bind (Block.node? k) := by
  rw [find?, nodes_ofBlocks]
  induction bs with
  | nil => rfl
  | cons b bs ih =>
      have ih := ih hnodup.of_cons
      by_cases hid : b.id = id
      · -- No later block has the identifier, of whatever kind the first one is.
        have hrest : bs.find? (·.id == id) = none := by
          refine List.find?_eq_none.mpr fun b' hb' h => ?_
          exact Block.id_ne_of_nodup_cons hnodup b' hb' ((eq_of_beq h).trans hid.symm)
        have hhead : (b.id == id) = true := beq_iff_eq.mpr hid
        rw [hrest, Option.bind_none] at ih
        simp only [List.find?_cons, hhead, Option.bind_some]
        obtain ⟨n, rfl⟩ | hk := b.eq_mk_or_kind_ne k
        · rw [Block.node?_self, List.filterMap_cons_some (Block.node?_self k n)]
          exact List.find?_cons_of_pos hhead
        · rw [Block.node?_of_ne b hk, List.filterMap_cons_none (Block.node?_of_ne b hk), ih]
      · have hhead : (b.id == id) = false := beq_false_of_ne hid
        simp only [List.find?_cons, hhead, ← ih]
        obtain ⟨n, rfl⟩ | hk := b.eq_mk_or_kind_ne k
        · rw [List.filterMap_cons_some (Block.node?_self k n)]
          exact List.find?_cons_of_neg (ne_true_of_eq_false hhead)
        · rw [List.filterMap_cons_none (Block.node?_of_ne b hk)]

theorem kind?_ofBlocks (id : NodeId) (hnodup : (bs.map Block.id).Nodup) :
    (ofBlocks heading bs).kind? id = (bs.find? (·.id == id)).map Block.kind := by
  rw [kind?]
  simp only [find?_ofBlocks heading bs _ id hnodup]
  cases bs.find? (·.id == id) with
  | none => rfl
  | some b =>
      simp only [Option.bind_some, Block.isSome_node?, Option.map_some]
      cases b.kind <;> rfl

theorem name?_ofBlocks (id : NodeId) (hnodup : (bs.map Block.id).Nodup) :
    (ofBlocks heading bs).name? id = (bs.find? (·.id == id)).map Block.name := by
  rw [name?, kind?_ofBlocks heading bs id hnodup]
  simp only [find?_ofBlocks heading bs _ id hnodup]
  cases bs.find? (·.id == id) with
  | none => rfl
  | some b => exact congrArg (Option.map b.kind.nodeName) (Block.node?_self b.kind b.node)

theorem ids_ofBlocks (k : Kind) :
    (ofBlocks heading bs).ids k = (bs.filter (·.kind == k)).map Block.id := by
  rw [ids, nodes_ofBlocks, List.map_filterMap, ← List.filterMap_eq_map, List.filterMap_filter]
  exact List.filterMap_congr fun b _ => b.map_node? k

theorem count_ofBlocks (k : Kind) : (ofBlocks heading bs).count k = bs.countP (·.kind == k) := by
  rw [count, nodes_ofBlocks, List.length_filterMap_eq_countP]
  exact List.countP_congr fun b _ => by rw [Block.isSome_node?]

theorem nodeCount_eq (g : Graph) : g.nodeCount = g.count .valueObject + g.count .entity +
    g.count .aggregate + g.count .repository + g.count .useCase := by
  simp [nodeCount, Kind.all]

theorem nodeCount_ofBlocks : (ofBlocks heading bs).nodeCount = bs.length := by
  rw [nodeCount_eq]
  simp only [count_ofBlocks]
  induction bs with
  | nil => rfl
  | cons b bs ih =>
      simp only [List.countP_cons, List.length_cons]
      cases b.kind <;> simp <;> omega

theorem eq_ofBlocks_of_isEmpty {g : Graph} (h : g.isEmpty) : g = ofBlocks g.heading [] := by
  refine eq_of_nodes (fun k => ?_) rfl
  rw [isEmpty, beq_iff_eq, nodeCount_eq] at h
  have hk : g.count k = 0 := by cases k <;> omega
  rw [List.eq_nil_of_length_eq_zero hk, nodes_ofBlocks, List.filterMap_nil]

end Graph

end OfBlocks

end Blueprint
