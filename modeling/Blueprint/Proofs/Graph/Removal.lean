import Blueprint.Graph.Edit
import Blueprint.Proofs.Graph.Validation
import Mathlib.Data.List.Flatten
import Mathlib.Data.List.Nodup
import Mathlib.Data.List.Pairwise
import Mathlib.Data.List.Perm.Basic

/-!
# Removed blocks

Where all identifiers differ, removing a block leaves every other block at its place and the
references to it dangling. A report then keeps its findings on the other blocks in their order, and
between them come the errors that `Kind.orphans` lists: one for each reference to the removed block,
in a position where a block of its kind may stand, on the block that holds the reference.
-/

namespace Blueprint

theorem filter_or_perm {α : Type} {p q : α → Prop} [DecidablePred p] [DecidablePred q]
    (hpq : ∀ a, q a → ¬ p a) (l : List α) :
    (l.filter fun a => p a ∨ q a).Perm (l.filter (p ·) ++ l.filter (q ·)) := by
  have hkept : (l.filter fun a => p a ∨ q a).filter (p ·) = l.filter (p ·) := by
    rw [List.filter_filter]
    exact List.filter_congr fun a _ => by by_cases hp : p a <;> simp [hp]
  have hadded : (l.filter fun a => p a ∨ q a).filter (fun a => !p a) = l.filter (q ·) := by
    rw [List.filter_filter]
    refine List.filter_congr fun a _ => ?_
    by_cases hq : q a
    · simp [hq, hpq a hq]
    · by_cases hp : p a <;> simp [hq, hp]
  have hparts := List.filter_append_perm (p ·) (l.filter fun a => p a ∨ q a)
  rw [hkept, hadded] at hparts
  exact hparts.symm

/-! ### References to the removed block -/

def EntityField.orphan? (x : NodeId) : EntityField → Option Issue
  | .primitive _ _ => none
  | .valueObject name target => if target = x then some (.missingValueObject x name) else none

/-- What becomes wrong with a block, the holder, when the block of a kind with the identifier is
gone: one issue for each occurrence of the identifier where a block of the kind may stand. -/
def Kind.orphans (x : NodeId) : (k holder : Kind) → holder.Node → List Issue
  | .valueObject, .entity, e => (Entity.fields e).filterMap (EntityField.orphan? x)
  | .entity, .aggregate, a =>
    (if Aggregate.root a = x then [.noRoot] else []) ++
      ((Aggregate.members a).filter (· = x)).map .missingMember
  | .entity, .useCase, u =>
    ((UseCase.reads u ++ UseCase.writes u).filter (· = x)).map .missingTarget
  | .aggregate, .useCase, u =>
    ((UseCase.reads u ++ UseCase.writes u).filter (· = x)).map .missingTarget
  | .repository, .useCase, u => ((UseCase.repositories u).filter (· = x)).map .missingRepository
  | _, _, _ => []

/-- A reference to the identifier where a block of the kind may stand. -/
def Reference.NeedsBlock (r : Reference) (k : Kind) (x : NodeId) : Prop :=
  r.target = x ∧ k ∈ r.kinds

instance (r : Reference) (k : Kind) (x : NodeId) : Decidable (r.NeedsBlock k x) :=
  inferInstanceAs (Decidable (r.target = x ∧ k ∈ r.kinds))

theorem EntityField.orphan?_eq (x : NodeId) (f : EntityField) : f.orphan? x =
    (f.reference?.filter (·.NeedsBlock .valueObject x)).map Reference.issue := by
  cases f with
  | primitive name type => rfl
  | valueObject name target =>
      rw [orphan?, reference?, Option.filter_some]
      by_cases h : target = x <;> simp [Reference.NeedsBlock, h]

theorem EntityField.filter_reference?_of_ne {k : Kind} (hk : k ≠ .valueObject) (x : NodeId)
    (f : EntityField) : f.reference?.filter (·.NeedsBlock k x) = none := by
  cases f with
  | primitive name type => rfl
  | valueObject name target => rw [reference?, Option.filter_some]; simp [Reference.NeedsBlock, hk]

/-- References with one list of kinds, each pointing to the identifier it is made of. -/
theorem filter_needsBlock_map (ids : List NodeId) {f : NodeId → Reference} {kinds : List Kind}
    (htarget : ∀ id, (f id).target = id) (hkinds : ∀ id, (f id).kinds = kinds) (k : Kind)
    (x : NodeId) : ((ids.map f).filter (·.NeedsBlock k x)).map Reference.issue =
      if k ∈ kinds then (ids.filter (· = x)).map fun id => (f id).issue else [] := by
  rw [List.filter_map, List.map_map]
  split_ifs with hk
  · congr 1
    exact List.filter_congr fun id _ => by simp [Reference.NeedsBlock, htarget, hkinds, hk]
  · simp [Reference.NeedsBlock, hkinds, hk]

theorem Kind.orphans_eq (x : NodeId) (k holder : Kind) (m : holder.Node) :
    k.orphans x holder m =
      ((holder.references m).filter (·.NeedsBlock k x)).map Reference.issue := by
  cases holder with
  | valueObject => cases k <;> rfl
  | repository => cases k <;> rfl
  | entity =>
      rw [references, Entity.references, List.filter_filterMap, List.map_filterMap]
      by_cases hk : k = .valueObject
      · subst hk
        exact List.filterMap_congr fun f _ => f.orphan?_eq x
      · have hnone : k.orphans x .entity m = [] := by cases k <;> first | rfl | contradiction
        rw [hnone]
        refine (List.filterMap_eq_nil_iff.mpr fun f _ => ?_).symm
        rw [f.filter_reference?_of_ne hk, Option.map_none]
  | aggregate =>
      have hmembers := filter_needsBlock_map (Aggregate.members m)
        (f := fun id => ⟨id, [.entity], .missingMember id⟩) (fun _ => rfl) (fun _ => rfl) k x
      rw [references, Aggregate.references, ← List.singleton_append, List.filter_append,
        List.map_append, hmembers]
      by_cases hroot : Aggregate.root m = x <;> cases k <;>
        simp [orphans, Reference.NeedsBlock, hroot]
  | useCase =>
      have hrepositories := filter_needsBlock_map (UseCase.repositories m)
        (f := fun id => ⟨id, [.repository], .missingRepository id⟩) (fun _ => rfl)
        (fun _ => rfl) k x
      have htargets := filter_needsBlock_map (UseCase.reads m ++ UseCase.writes m)
        (f := fun id => ⟨id, [.entity, .aggregate], .missingTarget id⟩) (fun _ => rfl)
        (fun _ => rfl) k x
      rw [references, UseCase.references, List.filter_append, List.map_append, hrepositories,
        htargets]
      cases k <;> simp [orphans]

/-! ### Blocks and references that stay -/

namespace Graph

variable {g : Graph}

theorem ids_remove (g : Graph) (x : NodeId) (k : Kind) :
    (g.remove x).ids k = (g.ids k).filter (· != x) := by
  rw [ids, remove, nodes_keepIf, ids, List.filter_map]
  rfl

/-- All identifiers of a graph are different, also those of blocks of different kinds. -/
def DistinctIds (g : Graph) : Prop := (Kind.all.flatMap g.ids).Nodup

instance (g : Graph) : Decidable g.DistinctIds :=
  inferInstanceAs (Decidable (Kind.all.flatMap g.ids).Nodup)

namespace DistinctIds

variable (h : g.DistinctIds)
include h

theorem nodup (k : Kind) : (g.ids k).Nodup :=
  (List.nodup_flatMap.mp h).1 k (by cases k <;> decide)

theorem notMem_ids {k l : Kind} {x : NodeId} (hx : x ∈ g.ids k) (hl : l ≠ k) : x ∉ g.ids l := by
  have hmem (i : Kind) : i ∈ Kind.all := by cases i <;> decide
  have : Std.Symm (Function.onFun List.Disjoint g.ids) :=
    ⟨fun _ _ hdisjoint _ hi hj => hdisjoint hj hi⟩
  exact (List.nodup_flatMap.mp h).2.forall (hmem k) (hmem l) hl.symm hx

variable {k : Kind} {n : k.Node} (hn : n ∈ g.nodes k)
include hn

/-- The other blocks of the kind stay at their places. -/
theorem exists_nodes_remove : ∃ before after, g.nodes k = before ++ n :: after ∧
    (g.remove (k.nodeId n)).nodes k = before ++ after := by
  obtain ⟨before, after, hnodes⟩ := List.append_of_mem hn
  have hnodup := h.nodup k
  rw [ids, hnodes, List.map_append, List.map_cons, List.nodup_middle, List.nodup_cons,
    ← List.map_append] at hnodup
  refine ⟨before, after, hnodes, ?_⟩
  rw [remove, nodes_keepIf, hnodes, List.filter_append, List.filter_cons_of_neg (by simp),
    ← List.filter_append, List.filter_eq_self]
  intro m hm
  have hne : k.nodeId m ≠ k.nodeId n := fun hid => hnodup.1 (hid ▸ List.mem_map_of_mem hm)
  exact bne_iff_ne.mpr hne

theorem nodes_remove_of_ne {l : Kind} (hl : l ≠ k) :
    (g.remove (k.nodeId n)).nodes l = g.nodes l := by
  rw [remove, nodes_keepIf, List.filter_eq_self]
  intro m hm
  have hne : l.nodeId m ≠ k.nodeId n := fun hid =>
    h.notMem_ids (List.mem_map_of_mem hn) hl (hid ▸ List.mem_map_of_mem hm)
  exact bne_iff_ne.mpr hne

/-- A reference dangles afterwards when it did before or needs the removed block. -/
theorem dangles_remove_iff (r : Reference) : (g.remove (k.nodeId n)).Dangles r ↔
    g.Dangles r ∨ r.NeedsBlock k (k.nodeId n) := by
  by_cases htarget : r.target = k.nodeId n
  · have hgone : (g.remove (k.nodeId n)).Dangles r := by
      intro l _
      simp [ids_remove, htarget]
    refine iff_of_true hgone ?_
    by_cases hk : k ∈ r.kinds
    · exact .inr ⟨htarget, hk⟩
    · refine .inl fun l hl hmem => ?_
      rw [htarget] at hmem
      exact h.notMem_ids (List.mem_map_of_mem hn) (ne_of_mem_of_not_mem hl hk) hmem
  · simp [Dangles, ids_remove, htarget, Reference.NeedsBlock]

end DistinctIds

/-! ### Reports -/

theorem not_dangles_of_needsBlock {k : Kind} {n : k.Node} (hn : n ∈ g.nodes k) {r : Reference}
    (hr : r.NeedsBlock k (k.nodeId n)) : ¬ g.Dangles r :=
  fun hdangles => hdangles k hr.2 (hr.1 ▸ List.mem_map_of_mem hn)

theorem node_of_mem_nodeFindings {l : Kind} {m : l.Node} {f : Finding}
    (hf : f ∈ g.nodeFindings l m) : f.node = l.nodeId m := by
  rw [nodeFindings, List.mem_append, List.mem_map, List.mem_map] at hf
  obtain ⟨_, _, rfl⟩ | ⟨_, _, rfl⟩ := hf <;> rfl

/-- The findings that are not on a block are those on the blocks that stay. -/
theorem filter_findings_report (g : Graph) (x : NodeId) :
    g.report.findings.filter (·.node ≠ x) =
      checkOrder.flatMap fun l => ((g.remove x).nodes l).flatMap (g.nodeFindings l) := by
  rw [findings_report, List.filter_flatMap]
  refine List.flatMap_congr fun l _ => ?_
  rw [kindFindings, List.filter_flatMap, remove, nodes_keepIf]
  induction g.nodes l with
  | nil => rfl
  | cons m ms ih =>
      rw [List.flatMap_cons, ih]
      by_cases hm : l.nodeId m = x
      · have hnone : (g.nodeFindings l m).filter (·.node ≠ x) = [] :=
          List.filter_eq_nil_iff.mpr fun f hf => by simp [node_of_mem_nodeFindings hf, hm]
        rw [hnone, List.filter_cons_of_neg (by simp [hm]), List.nil_append]
      · have hall : (g.nodeFindings l m).filter (·.node ≠ x) = g.nodeFindings l m :=
          List.filter_eq_self.mpr fun f hf => by simp [node_of_mem_nodeFindings hf, hm]
        rw [hall, List.filter_cons_of_pos (by simp [hm]), List.flatMap_cons]

/-- The errors that a removed block leaves on one that stays. -/
def orphanFindings (k : Kind) (x : NodeId) (l : Kind) (m : l.Node) : List Finding :=
  (k.orphans x l m).map fun i => ⟨l.nodeId m, i.message, .error⟩

namespace DistinctIds

variable (h : g.DistinctIds) {k : Kind} {n : k.Node} (hn : n ∈ g.nodes k)
include h hn

theorem filter_dangles_remove (rs : List Reference) :
    rs.filter ((g.remove (k.nodeId n)).Dangles ·) =
      rs.filter fun r => g.Dangles r ∨ r.NeedsBlock k (k.nodeId n) :=
  List.filter_congr fun r _ => decide_eq_decide.mpr (h.dangles_remove_iff hn r)

theorem nodeFindings_sublist (l : Kind) (m : l.Node) :
    (g.nodeFindings l m).Sublist ((g.remove (k.nodeId n)).nodeFindings l m) := by
  rw [nodeFindings, nodeFindings, h.filter_dangles_remove hn]
  refine List.Sublist.append_right (List.Sublist.map _ ?_) _
  exact List.monotone_filter_right _ fun r hr => by
    rw [decide_eq_true_eq] at hr ⊢
    exact .inl hr

theorem nodeFindings_perm (l : Kind) (m : l.Node) :
    ((g.remove (k.nodeId n)).nodeFindings l m).Perm
      (g.nodeFindings l m ++ orphanFindings k (k.nodeId n) l m) := by
  have hdisjoint : ∀ r : Reference, r.NeedsBlock k (k.nodeId n) → ¬ g.Dangles r :=
    fun _ hr => not_dangles_of_needsBlock hn hr
  have hfilter := filter_or_perm hdisjoint (l.references m)
  rw [nodeFindings, h.filter_dangles_remove hn, nodeFindings, orphanFindings, Kind.orphans_eq,
    List.map_map, List.append_assoc]
  refine ((hfilter.map _).append_right _).trans ?_
  rw [List.map_append, List.append_assoc]
  exact List.perm_append_comm.append_left _

theorem findings_report_sublist :
    (g.report.findings.filter (·.node ≠ k.nodeId n)).Sublist
      (g.remove (k.nodeId n)).report.findings := by
  rw [filter_findings_report, findings_report]
  refine List.Sublist.flatMap_right _ fun l _ => ?_
  exact List.Sublist.flatMap_right _ fun m _ => h.nodeFindings_sublist hn l m

theorem findings_report_perm :
    (g.remove (k.nodeId n)).report.findings.Perm
      (g.report.findings.filter (·.node ≠ k.nodeId n) ++
        checkOrder.flatMap fun l =>
          ((g.remove (k.nodeId n)).nodes l).flatMap (orphanFindings k (k.nodeId n) l)) := by
  rw [filter_findings_report, findings_report]
  refine List.Perm.trans ?_ (List.flatMap_append_perm _ _ _).symm
  refine List.Perm.flatMap_left _ fun l _ => ?_
  refine List.Perm.trans ?_ (List.flatMap_append_perm _ _ _).symm
  exact List.Perm.flatMap_left _ fun m _ => h.nodeFindings_perm hn l m

end DistinctIds

/-- Removing a block changes no other block, and a report on what is left holds the findings that
were not on the block, in their order, and one error for each reference to it that a block of its
kind could have answered. -/
theorem report_remove {g : Graph} (h : (Kind.all.flatMap g.ids).Nodup) {k : Kind} {n : k.Node}
    (hn : n ∈ g.nodes k) :
    let x := k.nodeId n
    let left := g.remove x
    (∃ before after, g.nodes k = before ++ n :: after ∧ left.nodes k = before ++ after) ∧
      (∀ l ≠ k, left.nodes l = g.nodes l) ∧ left.heading = g.heading ∧
      (g.report.findings.filter (·.node ≠ x)).Sublist left.report.findings ∧
      left.report.findings.Perm (g.report.findings.filter (·.node ≠ x) ++
        [.aggregate, .useCase, .entity, .valueObject, .repository].flatMap fun l =>
          (left.nodes l).flatMap fun m =>
            (k.orphans x l m).map fun i => ⟨l.nodeId m, i.message, .error⟩) := by
  intro x left
  have h : g.DistinctIds := h
  exact ⟨h.exists_nodes_remove hn, fun l hl => h.nodes_remove_of_ne hn hl, heading_keepIf _ _,
    h.findings_report_sublist hn, h.findings_report_perm hn⟩

/-- The ride is referred to from every position, some of them twice and some where no entity may
stand, and it refers to itself. -/
def bookedRide : Graph :=
  { empty "Trips" with
    entities := [⟨⟨"ride"⟩, "Ride", .guid, [.valueObject "Next" ⟨"ride"⟩]⟩]
    aggregates := [⟨⟨"trip"⟩, "Trip", ⟨"ride"⟩, [⟨"ride"⟩, ⟨"car"⟩, ⟨"ride"⟩], []⟩]
    useCases := [⟨⟨"book"⟩, "Book", default, default, [⟨"ride"⟩], [⟨"ride"⟩], [⟨"ride"⟩]⟩] }

theorem report_remove_of_bookedRide :
    (Kind.all.flatMap bookedRide.ids).Nodup ∧
      (bookedRide.report.findings.filter (·.node ≠ ⟨"ride"⟩)).length = 3 ∧
      (bookedRide.remove ⟨"ride"⟩).report.findings.Perm
        (bookedRide.report.findings.filter (·.node ≠ ⟨"ride"⟩) ++
          [⟨⟨"trip"⟩, "Aggregate must have a valid root entity", .error⟩,
            ⟨⟨"trip"⟩, "Entity ride not found in aggregate", .error⟩,
            ⟨⟨"trip"⟩, "Entity ride not found in aggregate", .error⟩,
            ⟨⟨"book"⟩, "Target ride not found", .error⟩,
            ⟨⟨"book"⟩, "Target ride not found", .error⟩]) := by
  have hnodup : (Kind.all.flatMap bookedRide.ids).Nodup := by decide
  obtain ⟨-, -, -, -, hperm⟩ := report_remove (k := .entity) hnodup List.mem_cons_self
  exact ⟨hnodup, by decide, hperm⟩

end Graph

end Blueprint
