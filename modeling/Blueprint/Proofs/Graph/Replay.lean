import Blueprint.Proofs.Graph.Blocks
import Blueprint.Proofs.Graph.Issued
import Mathlib.Data.List.Induction

/-!
# Histories and what is left of them

A history is a list of edits, and `Edit.run` works through it. `replay` reads off a history alone
which blocks are left: each added block that no later edit removes, in the order of their
additions, under the identifier issued for it and with every later change to its kind and
identifier made in turn. A run from the empty graph ends in the graph of these blocks.
-/

namespace Blueprint

namespace Edit

def isAddition : Edit → Bool
  | .add _ _ => true
  | _ => false

def removes (id : NodeId) : Edit → Bool
  | .remove other => id == other
  | _ => false

/-- What an edit does to a block that it does not remove. -/
def change (b : Block) : Edit → Block
  | .update k id f => b.update k id f
  | _ => b

def changes (edits : List Edit) (b : Block) : Block := edits.foldl change b

/-- How many identifiers a history takes. -/
def additions (edits : List Edit) : Nat := edits.countP isAddition

theorem additions_add (k : Kind) (draft : k.Node) (edits : List Edit) :
    additions (.add k draft :: edits) = additions edits + 1 := List.countP_cons_of_pos rfl

theorem additions_update (k : Kind) (id : NodeId) (f : k.Node → k.Node) (edits : List Edit) :
    additions (.update k id f :: edits) = additions edits :=
  List.countP_cons_of_neg Bool.false_ne_true

theorem additions_remove (id : NodeId) (edits : List Edit) :
    additions (.remove id :: edits) = additions edits :=
  List.countP_cons_of_neg Bool.false_ne_true

variable {σ : Type} [IdSource σ]

def run (edits : List Edit) (state : Graph × σ) : Graph × σ :=
  edits.foldl (fun state e => e.apply state) state

/-- The blocks that are left of a history. -/
def replay : σ → List Edit → List Block
  | _, [] => []
  | s, .add k draft :: rest =>
    if rest.any (removes (IdSource.issue s).1) then replay (IdSource.issue s).2 rest
    else changes rest ⟨k, k.withId (IdSource.issue s).1 draft⟩ :: replay (IdSource.issue s).2 rest
  | s, .update _ _ _ :: rest => replay s rest
  | s, .remove _ :: rest => replay s rest

/-! ### Longer histories -/

theorem id_change (b : Block) (e : Edit) : (change b e).id = b.id := by
  cases e with
  | add k draft => rfl
  | update k id f => exact b.id_update k id f
  | remove id => rfl

theorem id_changes (edits : List Edit) (b : Block) : (changes edits b).id = b.id := by
  induction edits generalizing b with
  | nil => rfl
  | cons e edits ih => exact (ih (change b e)).trans (id_change b e)

theorem changes_append (xs ys : List Edit) (b : Block) :
    changes (xs ++ ys) b = changes ys (changes xs b) := List.foldl_append

theorem additions_append (xs ys : List Edit) : additions (xs ++ ys) = additions xs + additions ys :=
  List.countP_append

/-- Going on with a history takes away what the rest removes, changes what it changes and puts
what it adds at the end. -/
theorem replay_append (s : σ) (xs ys : List Edit) : replay s (xs ++ ys) =
    ((replay s xs).filter fun b => !ys.any (removes b.id)).map (changes ys) ++
      replay (spent (additions xs) s) ys := by
  induction xs generalizing s with
  | nil => rfl
  | cons e xs ih =>
      cases e with
      | add k draft =>
          rw [List.cons_append, replay, replay, List.any_append, ih, additions_add, spent]
          cases hxs : xs.any (removes (IdSource.issue s).1) with
          | true => simp
          | false =>
              have hid : (changes xs ⟨k, k.withId (IdSource.issue s).1 draft⟩).id =
                  (IdSource.issue s).1 := (id_changes xs _).trans (Kind.nodeId_withId k _ draft)
              cases hys : ys.any (removes (IdSource.issue s).1) <;>
                simp [hid, hys, changes_append]
      | update k id f => rw [List.cons_append, replay, replay, ih, additions_update]
      | remove id => rw [List.cons_append, replay, replay, ih, additions_remove]

/-- The blocks that are left have identifiers that were issued, in the order of issue. -/
theorem map_id_replay_sublist (s : σ) (edits : List Edit) :
    ((replay s edits).map Block.id).Sublist (issued (additions edits) s) := by
  induction edits generalizing s with
  | nil => exact List.Sublist.refl _
  | cons e edits ih =>
      cases e with
      | add k draft =>
          rw [additions_add, issued, replay]
          split_ifs
          · exact (ih _).cons _
          · rw [List.map_cons, id_changes, Block.id, Kind.nodeId_withId]
            exact (ih _).cons_cons _
      | update k id f =>
          rw [additions_update]
          exact ih s
      | remove id =>
          rw [additions_remove]
          exact ih s

/-! ### Runs -/

/-- An edit takes away what it removes, changes what it changes and puts what it adds at the
end. -/
theorem apply_ofBlocks (heading : Heading) {bs : List Block} (hnodup : (bs.map Block.id).Nodup)
    (s : σ) (e : Edit) : e.apply (Graph.ofBlocks heading bs, s) =
      (Graph.ofBlocks heading
        ((bs.filter fun b => !e.removes b.id).map (change · e) ++ replay s [e]),
        spent (additions [e]) s) := by
  cases e with
  | add k draft =>
      have hkept : (bs.filter fun b => !removes b.id (.add k draft)).map
          (change · (.add k draft)) = bs := by
        simp [removes, change]
      rw [hkept]
      exact congrArg (·, (IdSource.issue s).2) (Graph.insert_ofBlocks heading bs k _ draft)
  | update k id f =>
      have hkept : (bs.filter fun b => !removes b.id (.update k id f)).map
          (change · (.update k id f)) = bs.map (Block.update k id f) := by
        simp [removes, change]
      rw [hkept, replay, replay, List.append_nil, ← Graph.update_ofBlocks heading bs k id f hnodup]
      rfl
  | remove id =>
      have hkept : (bs.filter fun b => !removes b.id (.remove id)).map (change · (.remove id)) =
          bs.filter (·.id != id) := by
        simp [removes, change, bne]
      rw [hkept, replay, replay, List.append_nil, ← Graph.remove_ofBlocks heading bs id]
      rfl

theorem run_concat (edits : List Edit) (e : Edit) (state : Graph × σ) :
    run (edits ++ [e]) state = e.apply (run edits state) := List.foldl_concat ..

theorem replay_concat (s : σ) (edits : List Edit) (e : Edit) : replay s (edits ++ [e]) =
    ((replay s edits).filter fun b => !e.removes b.id).map (change · e) ++
      replay (spent (additions edits) s) [e] := by
  rw [replay_append]
  simp only [List.any_cons, List.any_nil, Bool.or_false]
  rfl

/-- A run from an empty graph ends in the graph of the blocks that are left of its history. -/
theorem run_of_isEmpty {g : Graph} (hg : g.isEmpty) (s : σ) (edits : List Edit)
    (hnodup : (issued (additions edits) s).Nodup) : run edits (g, s) =
      (Graph.ofBlocks g.heading (replay s edits), spent (additions edits) s) := by
  -- From the end, since the blocks that are left depend on all edits still to come.
  induction edits using List.reverseRecOn with
  | nil => exact congrArg (·, s) (Graph.eq_ofBlocks_of_isEmpty hg)
  | append_singleton edits e ih =>
      rw [additions_append, issued_add] at hnodup
      have hedits := hnodup.of_append_left
      have hids := (map_id_replay_sublist s edits).nodup hedits
      rw [run_concat, ih hedits, apply_ofBlocks g.heading hids, replay_concat, additions_append,
        spent_add]

end Edit

/-! ### Edits of nothing -/

namespace Graph

theorem update_ofBlocks_of_forall_ne (heading : Heading) {bs : List Block} {k : Kind} {id : NodeId}
    (h : ∀ b ∈ bs, b.id = id → b.kind ≠ k) (f : k.Node → k.Node)
    (hnodup : (bs.map Block.id).Nodup) :
    (ofBlocks heading bs).update k id f = ofBlocks heading bs := by
  rw [update_ofBlocks heading bs k id f hnodup]
  refine congrArg _ ((List.map_congr_left fun b hb => ?_).trans (List.map_id' bs))
  by_cases hid : b.id = id
  · exact b.update_of_kind_ne (h b hb hid) id f
  · exact b.update_of_id_ne hid k f

theorem remove_ofBlocks_of_forall_ne (heading : Heading) {bs : List Block} {id : NodeId}
    (h : ∀ b ∈ bs, b.id ≠ id) : (ofBlocks heading bs).remove id = ofBlocks heading bs := by
  rw [remove_ofBlocks, List.filter_eq_self.mpr fun b hb => bne_iff_ne.mpr (h b hb)]

end Graph

namespace Edit

/-- A run that numbers its blocks gives the blocks left of its history, in order and by kind, under
the heading it began with. A change that names no block of its kind and a removal that names no
block do nothing, and every lookup and count is answered by the blocks that are left. -/
theorem run_eq_replay {g : Graph} (hg : g.isEmpty) (c : Counter) (edits : List Edit)
    (h : c.next.toNat + additions edits ≤ UInt64.size) :
    let state := run edits (g, c)
    let left := replay c edits
    state.1 = Graph.ofBlocks g.heading left ∧
      (∀ k, state.1.nodes k = left.filterMap (Block.node? k)) ∧
      state.1.heading = g.heading ∧
      (∀ k id f, (∀ b ∈ left, b.id = id → b.kind ≠ k) → (update k id f).apply state = state) ∧
      (∀ id, (∀ b ∈ left, b.id ≠ id) → (remove id).apply state = state) ∧
      (∀ k id, state.1.find? k id = (left.find? (·.id == id)).bind (Block.node? k)) ∧
      (∀ id, state.1.kind? id = (left.find? (·.id == id)).map Block.kind) ∧
      (∀ id, state.1.name? id = (left.find? (·.id == id)).map Block.name) ∧
      (∀ k, state.1.count k = left.countP (·.kind == k)) ∧
      state.1.nodeCount = left.length := by
  have hissued := Counter.nodup_issued h
  have hids := (map_id_replay_sublist c edits).nodup hissued
  rw [run_of_isEmpty hg c edits hissued]
  refine ⟨rfl, Graph.nodes_ofBlocks _ _, rfl, fun k id f hf => ?_, fun id hid => ?_,
    fun k id => Graph.find?_ofBlocks _ _ k id hids, fun id => Graph.kind?_ofBlocks _ _ id hids,
    fun id => Graph.name?_ofBlocks _ _ id hids, Graph.count_ofBlocks _ _,
    Graph.nodeCount_ofBlocks _ _⟩
  · exact congrArg (·, spent (additions edits) c)
      (Graph.update_ofBlocks_of_forall_ne g.heading hf f hids)
  · exact congrArg (·, spent (additions edits) c)
      (Graph.remove_ofBlocks_of_forall_ne g.heading hid)

/-- A fare and a ride that refers to it. The ride is renamed by a change that also takes the fare's
identifier, and missed by a change of a repository; the fare is removed and drafted anew. -/
def rides : List Edit :=
  [.add .valueObject ⟨⟨"draft"⟩, "Fare", []⟩,
    .add .entity ⟨⟨"draft"⟩, "Ride", .guid, [.valueObject "Fare" ⟨"node-9"⟩]⟩,
    .update .entity ⟨"node-10"⟩ fun e => { e with id := ⟨"node-9"⟩, name := "Trip" },
    .update .repository ⟨"node-10"⟩ fun r => { r with name := "Trips" },
    .remove ⟨"node-9"⟩,
    .add .valueObject ⟨⟨"node-9"⟩, "Fare", []⟩]

theorem run_eq_replay_of_rides :
    (Graph.empty "Rides").isEmpty ∧ (9 : UInt64).toNat + additions rides ≤ UInt64.size ∧
      let state := run rides (Graph.empty "Rides", (⟨"node", 9⟩ : Counter))
      state.1 = ⟨[⟨⟨"node-11"⟩, "Fare", []⟩],
        [⟨⟨"node-10"⟩, "Trip", .guid, [.valueObject "Fare" ⟨"node-9"⟩]⟩], [], [], [],
        ⟨"Rides", 1⟩⟩ ∧
      (remove ⟨"node-9"⟩).apply state = state ∧
      state.1.kind? ⟨"node-10"⟩ = some .entity ∧ state.1.name? ⟨"node-9"⟩ = none ∧
      state.1.nodeCount = 2 := by
  have hadditions : (9 : UInt64).toNat + additions rides ≤ UInt64.size := by decide
  obtain ⟨hgraph, -, -, -, hremove, -, hkind, hname, -, hcount⟩ :=
    run_eq_replay (g := Graph.empty "Rides") rfl ⟨"node", 9⟩ rides hadditions
  refine ⟨rfl, hadditions, hgraph.trans ?_, hremove _ ?_, (hkind _).trans ?_, (hname _).trans ?_,
    hcount.trans ?_⟩
  · decide
  · decide
  · decide
  · decide
  · decide

end Edit

end Blueprint
