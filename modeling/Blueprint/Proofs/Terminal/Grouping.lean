import Blueprint.Proofs.Keyed
import Blueprint.Terminal.Check
import Mathlib.Algebra.BigOperators.Group.List.Lemmas
import Mathlib.Algebra.GroupWithZero.Nat
import Mathlib.Data.List.Induction

/-!
# Findings block by block

The findings of a report are shown in groups, one for each block that has any. The report is gone
through once: a finding joins the group of its block or opens a new group behind the others. So
the groups stand in the order of their first findings, and each holds what the report has on its
block, in the report's order. No finding is lost or shown twice.
-/

namespace Blueprint.Terminal

variable (g : Graph)

/-- What a group shows of a finding. -/
def entry (f : Finding) : Severity × String := (f.severity, f.message)

/-- The group of a block among some findings. -/
def groupOn (fs : List Finding) (id : NodeId) : FindingGroup :=
  ⟨heading g id, id.text, (fs.filter (·.node == id)).map entry⟩

theorem groupOn_concat_self (fs : List Finding) (f : Finding) :
    groupOn g (fs ++ [f]) f.node =
      ⟨heading g f.node, f.node.text, (fs.filter (·.node == f.node)).map entry ++ [entry f]⟩ := by
  simp [groupOn]

theorem groupOn_concat_of_ne {fs : List Finding} {f : Finding} {id : NodeId} (h : f.node ≠ id) :
    groupOn g (fs ++ [f]) id = groupOn g fs id := by
  simp [groupOn, h]

theorem map_groupOn_concat {fs : List Finding} {f : Finding} {ids : List NodeId}
    (h : f.node ∉ ids) : ids.map (groupOn g (fs ++ [f])) = ids.map (groupOn g fs) := by
  refine List.map_congr_left fun id hid => groupOn_concat_of_ne g ?_
  rintro rfl
  exact h hid

/-! ### One more finding -/

/-- A finding joins the group of its block, or opens one behind the others. -/
theorem addFinding_map_groupOn {fs : List Finding} {f : Finding} {ids : List NodeId}
    (hnodup : ids.Nodup) (hfs : f.node ∉ ids → f.node ∉ fs.map Finding.node) :
    addFinding g f (ids.map (groupOn g fs)) =
      (if f.node ∈ ids then ids else ids ++ [f.node]).map (groupOn g (fs ++ [f])) := by
  induction ids with
  | nil =>
      have hnone : fs.filter (·.node == f.node) = [] := by
        rw [List.filter_eq_nil_iff]
        intro f' hf' hnode
        exact hfs List.not_mem_nil (eq_of_beq hnode ▸ List.mem_map_of_mem hf')
      simp [addFinding, groupOn_concat_self, hnone, entry]
  | cons id ids ih =>
      obtain ⟨hid, hids⟩ := List.nodup_cons.mp hnodup
      rw [List.map_cons, addFinding]
      by_cases hnode : f.node = id
      · subst hnode
        have hself : (groupOn g fs f.node).node = f.node.text := rfl
        rw [if_pos hself, if_pos List.mem_cons_self, List.map_cons, groupOn_concat_self,
          map_groupOn_concat g hid]
        rfl
      · have hmem : f.node ∈ id :: ids ↔ f.node ∈ ids := by simp [hnode]
        have htext : id.text ≠ f.node.text := fun h => hnode (congrArg NodeId.mk h).symm
        have hrest := ih hids fun hnot => hfs (mt hmem.mp hnot)
        rw [groupOn, if_neg htext, hrest, ← groupOn, ← groupOn_concat_of_ne g hnode]
        simp only [hmem]
        split_ifs <;> rfl

/-- What the groups show, finding by finding, with the blocks that it is shown on. -/
def shown (groups : List FindingGroup) : List (String × Severity × String) :=
  groups.flatMap fun group => group.findings.map (group.node, ·)

theorem shown_addFinding_perm (f : Finding) (groups : List FindingGroup) :
    (shown (addFinding g f groups)).Perm (shown groups ++ [(f.node.text, entry f)]) := by
  induction groups with
  | nil => exact .refl _
  | cons group groups ih =>
      rw [addFinding]
      split_ifs with hnode
      · simp only [shown, List.flatMap_cons, List.map_append, List.map_singleton, hnode,
          List.append_assoc]
        exact List.perm_append_comm.append_left _
      · simp only [shown, List.flatMap_cons, List.append_assoc]
        exact ih.append_left _

/-! ### The whole report -/

variable (r : Report)

/-- The blocks that a report has findings on, as it comes to them. -/
def toldNodes : List NodeId := r.findings.map Finding.node

/-- There is one group for each block that has a finding, in the order of their first findings. -/
theorem groupFindings_eq :
    groupFindings g r = (toldNodes r).eraseDups.map (groupOn g r.findings) := by
  obtain ⟨fs⟩ := r
  rw [groupFindings, toldNodes]
  dsimp only
  induction fs using List.reverseRecOn with
  | nil => rfl
  | append_singleton fs f ih =>
      have hmem : f.node ∉ (fs.map Finding.node).eraseDups → f.node ∉ fs.map Finding.node :=
        mt List.mem_eraseDups.mpr
      rw [List.foldl_append, List.foldl_cons, List.foldl_nil, ih,
        addFinding_map_groupOn g (Keyed.nodup_eraseDups _) hmem, List.map_append,
        List.map_singleton, Keyed.eraseDups_concat]
      simp only [List.mem_eraseDups]

theorem shown_groupFindings_perm :
    (shown (groupFindings g r)).Perm (r.findings.map fun f => (f.node.text, entry f)) := by
  obtain ⟨fs⟩ := r
  rw [groupFindings]
  dsimp only
  induction fs using List.reverseRecOn with
  | nil => exact .refl _
  | append_singleton fs f ih =>
      rw [List.foldl_append, List.foldl_cons, List.foldl_nil, List.map_append]
      exact (shown_addFinding_perm g f _).trans (ih.append_right _)

theorem sum_length_groupFindings :
    ((groupFindings g r).map (·.findings.length)).sum = r.findings.length := by
  have hperm := (shown_groupFindings_perm g r).length_eq
  simpa [shown, List.length_flatMap] using hperm

theorem mem_groupFindings_iff {group : FindingGroup} :
    group ∈ groupFindings g r ↔ ∃ f ∈ r.findings, groupOn g r.findings f.node = group := by
  simp [groupFindings_eq, toldNodes]

/-- Where a report first comes to the block of a group. -/
def firstPlace (group : FindingGroup) : Nat := (toldNodes r).idxOf ⟨group.node⟩

theorem pairwise_firstPlace_groupFindings :
    (groupFindings g r).Pairwise fun group later => firstPlace r group < firstPlace r later := by
  rw [groupFindings_eq, List.pairwise_map]
  exact Keyed.pairwise_idxOf_eraseDups (toldNodes r)

theorem nodup_node_groupFindings : ((groupFindings g r).map FindingGroup.node).Nodup := by
  have horder := pairwise_firstPlace_groupFindings g r
  refine List.pairwise_map.mpr (horder.imp fun {group later} hlt hnode => ?_)
  simp only [firstPlace, hnode, Nat.lt_irrefl] at hlt

/-- The groups partition the findings of a report: each stands for another block, in the order in
which the report comes to the blocks, and holds what the report has on its block, in the report's
order. -/
theorem groupFindings_partition :
    ((groupFindings g r).map FindingGroup.node).Nodup ∧
      (groupFindings g r).Pairwise (fun group later => firstPlace r group < firstPlace r later) ∧
      (∀ group ∈ groupFindings g r, group.heading = heading g ⟨group.node⟩ ∧
        group.findings = (r.forNode ⟨group.node⟩).map entry ∧ group.findings ≠ []) ∧
      (∀ f ∈ r.findings, ∃ group ∈ groupFindings g r, group.node = f.node.text) ∧
      (shown (groupFindings g r)).Perm (r.findings.map fun f => (f.node.text, entry f)) ∧
      ((groupFindings g r).map (·.findings.length)).sum = r.findings.length := by
  refine ⟨nodup_node_groupFindings g r, pairwise_firstPlace_groupFindings g r,
    fun group hgroup => ?_, fun f hf => ?_, shown_groupFindings_perm g r,
    sum_length_groupFindings g r⟩
  · obtain ⟨f, hf, rfl⟩ := (mem_groupFindings_iff g r).mp hgroup
    refine ⟨rfl, rfl, List.ne_nil_of_mem (a := entry f) ?_⟩
    exact List.mem_map_of_mem (List.mem_filter.mpr ⟨hf, beq_self_eq_true _⟩)
  · exact ⟨_, (mem_groupFindings_iff g r).mpr ⟨f, hf, rfl⟩, rfl⟩

end Blueprint.Terminal
