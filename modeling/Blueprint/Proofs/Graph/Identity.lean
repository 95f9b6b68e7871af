import Blueprint.Proofs.Graph.Reference
import Blueprint.Proofs.Graph.Replay

/-!
# Identity

In a run that numbers its blocks no two blocks share an identifier, of whatever kinds they are, and
an identifier whose block was removed is never given out again: what refers to it dangles for good.
-/

namespace Blueprint

namespace Graph

variable (heading : Heading) {bs : List Block}

theorem mem_ids_ofBlocks {k : Kind} {id : NodeId} :
    id ∈ (ofBlocks heading bs).ids k ↔ ∃ b ∈ bs, b.kind = k ∧ b.id = id := by
  rw [ids_ofBlocks]
  simp [and_assoc]

theorem nodup_ids_ofBlocks (hnodup : (bs.map Block.id).Nodup) :
    (Kind.all.flatMap (ofBlocks heading bs).ids).Nodup := by
  refine List.nodup_flatMap.mpr ⟨fun k _ => ?_, ?_⟩
  · rw [ids_ofBlocks]
    exact (List.filter_sublist.map Block.id).nodup hnodup
  · have hkinds : Kind.all.Nodup := by decide
    refine hkinds.imp fun {k l} hkl => ?_
    intro id hk hl
    obtain ⟨b, hb, hbk, hbid⟩ := (mem_ids_ofBlocks heading).mp hk
    obtain ⟨b', hb', hbl, hbid'⟩ := (mem_ids_ofBlocks heading).mp hl
    obtain rfl := List.inj_on_of_nodup_map hnodup hb hb' (hbid.trans hbid'.symm)
    exact hkl (hbk.symm.trans hbl)

end Graph

namespace Edit

variable {σ : Type} [IdSource σ]

/-- What is removed does not come back: the rest of the history takes other identifiers. -/
theorem notMem_replay_of_remove {s : σ} {before after : List Edit} {id : NodeId}
    (hnodup : (issued (additions (before ++ .remove id :: after)) s).Nodup)
    (hid : id ∈ (replay s before).map Block.id) :
    id ∉ (replay s (before ++ .remove id :: after)).map Block.id := by
  rw [additions_append, issued_add, List.nodup_append] at hnodup
  rw [replay_append, List.map_append, List.mem_append]
  rintro (hkept | hadded)
  · simp only [List.map_map, List.mem_map, List.mem_filter, Function.comp_apply, id_changes]
      at hkept
    obtain ⟨b, ⟨-, hb⟩, rfl⟩ := hkept
    simp [removes] at hb
  · have hbefore := (map_id_replay_sublist s before).subset hid
    have hafter := (map_id_replay_sublist _ _).subset hadded
    exact hnodup.2.2 id hbefore id hafter rfl

/-- All identifiers of a reached graph are different and were issued, and after a block is removed
no block of any graph still to come has its identifier, so that no reference to it resolves. -/
theorem ids_nodup_and_never_reused {g : Graph} (hg : g.isEmpty) (c : Counter) (edits : List Edit)
    (h : c.next.toNat + additions edits ≤ UInt64.size) :
    let reached := (run edits (g, c)).1
    (Kind.all.flatMap reached.ids).Nodup ∧
      (∀ k, ∀ id ∈ reached.ids k, id ∈ issued (additions edits) c) ∧
      ∀ before id after, edits = before ++ .remove id :: after →
        (∃ k, (run before (g, c)).1.has k id) →
        (∀ k, id ∉ reached.ids k) ∧ ∀ r : Reference, r.target = id → reached.Dangles r := by
  have hissued := Counter.nodup_issued h
  have hids := map_id_replay_sublist c edits
  rw [run_of_isEmpty hg c edits hissued]
  refine ⟨Graph.nodup_ids_ofBlocks _ (hids.nodup hissued), fun k id hid => ?_, ?_⟩
  · obtain ⟨b, hb, -, rfl⟩ := (Graph.mem_ids_ofBlocks _).mp hid
    exact hids.subset (List.mem_map_of_mem hb)
  · rintro before id after rfl ⟨k, hk⟩
    have hbefore : (issued (additions before) c).Nodup := by
      rw [additions_append, issued_add] at hissued
      exact hissued.of_append_left
    rw [run_of_isEmpty hg c before hbefore, Graph.has_iff, Graph.mem_ids_ofBlocks] at hk
    obtain ⟨b, hb, -, rfl⟩ := hk
    have hgone : ∀ k, b.id ∉ (Graph.ofBlocks g.heading
        (replay c (before ++ .remove b.id :: after))).ids k := by
      intro k hk
      obtain ⟨b', hb', -, hid⟩ := (Graph.mem_ids_ofBlocks _).mp hk
      exact notMem_replay_of_remove hissued (List.mem_map_of_mem hb)
        (List.mem_map.mpr ⟨b', hb', hid⟩)
    exact ⟨hgone, fun r hr k _ => hr ▸ hgone k⟩

/-- The fare is removed under the ride that refers to it, and drafted anew under the identifier it
had. -/
theorem ids_nodup_and_never_reused_of_rides :
    (Graph.empty "Rides").isEmpty ∧ (9 : UInt64).toNat + additions rides ≤ UInt64.size ∧
      rides = rides.take 4 ++ .remove ⟨"node-9"⟩ :: rides.drop 5 ∧
      (run (rides.take 4) (Graph.empty "Rides", (⟨"node", 9⟩ : Counter))).1.has
        .valueObject ⟨"node-9"⟩ ∧
      let reached := (run rides (Graph.empty "Rides", (⟨"node", 9⟩ : Counter))).1
      (Kind.all.flatMap reached.ids).Nodup ∧
      (∀ k, ∀ id ∈ reached.ids k, id ∈ [⟨"node-9"⟩, ⟨"node-10"⟩, ⟨"node-11"⟩]) ∧
      reached.Dangles ⟨⟨"node-9"⟩, [.valueObject], .missingValueObject ⟨"node-9"⟩ "Fare"⟩ := by
  have hadditions : (9 : UInt64).toNat + additions rides ≤ UInt64.size := by decide
  have hhas : (run (rides.take 4) (Graph.empty "Rides", (⟨"node", 9⟩ : Counter))).1.has
      .valueObject ⟨"node-9"⟩ := by decide
  have hissued : issued (additions rides) (⟨"node", 9⟩ : Counter) =
      [⟨"node-9"⟩, ⟨"node-10"⟩, ⟨"node-11"⟩] := by decide
  obtain ⟨hnodup, hids, hgone⟩ :=
    ids_nodup_and_never_reused (g := Graph.empty "Rides") rfl ⟨"node", 9⟩ rides hadditions
  rw [hissued] at hids
  exact ⟨rfl, hadditions, rfl, hhas, hnodup, hids,
    (hgone (rides.take 4) ⟨"node-9"⟩ (rides.drop 5) rfl ⟨_, hhas⟩).2 _ rfl⟩

end Edit

end Blueprint
