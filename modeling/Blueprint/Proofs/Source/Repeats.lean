import Blueprint.Proofs.Source.Path
import Mathlib.Algebra.BigOperators.Group.List.Lemmas
import Mathlib.Algebra.GroupWithZero.Nat

/-!
# Blocks with one path

The path of a source tells the kind and the name of its block, whatever the name is. So the files
with one path are those of the blocks of one kind with one name, in their order, and a path is
repeated when there are two of them.
-/

namespace Blueprint

theorem Language.path_injective (l : Language) {k k' : Kind} {name name' : String}
    (h : l.path k name = l.path k' name') : k = k' ∧ name = name' := by
  have hnamed := l.named_path k name
  rw [h, l.named_path k'] at hnamed
  obtain ⟨hmap, -⟩ := List.append_inj hnamed (by simp [Kind.length_folders])
  have hfolders := (List.map_inj_right fun _ _ => Component.name.inj).mp hmap
  obtain rfl := Kind.folders_injective hfolders
  have hpath := congrArg String.toList h
  rw [l.toList_path, l.toList_path] at hpath
  have hfile : l.fileName name = l.fileName name' :=
    String.toList_injective (List.cons.inj (List.append_cancel_left hpath)).2
  rw [Language.fileName, Language.fileName, String.append_assoc, String.append_assoc] at hfile
  exact ⟨rfl, by simpa using hfile⟩

namespace Graph

/-- The blocks of a kind with one name. -/
def namesakes (g : Graph) (k : Kind) (name : String) : List k.Node :=
  (g.nodes k).filter (k.nodeName · == name)

variable (g : Graph) (l : Language) (k : Kind) (name : String)

theorem filter_kindSources (k' : Kind) :
    (g.kindSources l k').filter (·.path == l.path k name) =
      if k' = k then (g.namesakes k name).map (l.file g k) else [] := by
  split_ifs with hk
  · subst hk
    rw [kindSources, namesakes, List.filter_map]
    congr 1
    refine List.filter_congr fun n _ => ?_
    rw [Bool.eq_iff_iff]
    simp only [Function.comp_apply, Language.file, beq_iff_eq]
    exact ⟨fun h => (l.path_injective h).2, fun h => by rw [h]⟩
  · rw [List.filter_eq_nil_iff]
    intro f hf
    obtain ⟨n, -, rfl⟩ := List.mem_map.mp hf
    simp only [Language.file, beq_iff_eq]
    exact fun h => hk (l.path_injective h).1

theorem filter_sources : (g.sources l).filter (·.path == l.path k name) =
    (g.namesakes k name).map (l.file g k) := by
  rw [sources, List.filter_flatMap]
  simp only [filter_kindSources]
  cases k <;> simp [Kind.all]

variable {g l}

theorem exists_namesakes_of_mem_sources {f : SourceFile} (hf : f ∈ g.sources l) :
    ∃ k name first last, f.path = l.path k name ∧ (g.namesakes k name).head? = some first ∧
      (g.namesakes k name).getLast? = some last := by
  obtain ⟨k, n, hn, hpath⟩ := exists_node_of_mem_sources hf
  have hmem : n ∈ g.namesakes k (k.nodeName n) := List.mem_filter.mpr ⟨hn, by simp⟩
  have hne := List.ne_nil_of_mem hmem
  exact ⟨k, k.nodeName n, _, _, hpath, List.head?_eq_some_head hne,
    List.getLast?_eq_some_getLast hne⟩

end Graph

/-! ### Repeated paths -/

theorem mem_repeatsAfter_iff {path : String} (before paths : List String) :
    path ∈ repeatsAfter before paths ↔ before.count path ≤ 1 ∧
      path ∈ paths ∧ 2 ≤ before.count path + paths.count path := by
  induction paths generalizing before with
  | nil => simp [repeatsAfter]
  | cons p paths ih =>
      rw [repeatsAfter]
      by_cases hp : p = path
      · subst hp
        split_ifs <;> simp [ih, ← List.count_pos_iff] <;> omega
      · split_ifs <;> simp [ih, hp, Ne.symm hp]

theorem mem_repeatedPaths_iff_count {files : List SourceFile} {path : String} :
    path ∈ repeatedPaths files ↔ 2 ≤ (files.map SourceFile.path).count path := by
  change path ∈ repeatsAfter [] (files.map SourceFile.path) ↔ _
  rw [mem_repeatsAfter_iff, ← List.count_pos_iff]
  simp only [List.count_nil]
  omega

theorem mem_repeatedPaths_iff {files : List SourceFile} {path : String} :
    path ∈ repeatedPaths files ↔ 2 ≤ (files.filter (·.path == path)).length := by
  rw [mem_repeatedPaths_iff_count, ← List.countP_eq_length_filter, List.count, List.countP_map]
  rfl

theorem nodup_repeatsAfter (before paths : List String) : (repeatsAfter before paths).Nodup := by
  induction paths generalizing before with
  | nil => exact List.nodup_nil
  | cons p paths ih =>
      rw [repeatsAfter]
      split_ifs with hcount
      · refine List.nodup_cons.mpr ⟨fun hp => ?_, ih (p :: before)⟩
        obtain ⟨hseen, -⟩ := (mem_repeatsAfter_iff (p :: before) paths).mp hp
        rw [List.count_cons_self] at hseen
        omega
      · exact ih (p :: before)

/-- Each path that is told as repeated stands there once, and the other paths occur once. -/
theorem repeatsAfter_perm (paths : List String) :
    (repeatsAfter [] paths).Perm (paths.dedup.filter (2 ≤ paths.count ·)) := by
  refine (List.perm_ext_iff_of_nodup (nodup_repeatsAfter [] paths)
    (paths.nodup_dedup.filter _)).mpr fun p => ?_
  rw [mem_repeatsAfter_iff, List.mem_filter, List.mem_dedup]
  simp

theorem sum_map_filter_of_eq_zero {α : Type} {f : α → Nat} {p : α → Bool} {as : List α}
    (h : ∀ a ∈ as, p a = false → f a = 0) : ((as.filter p).map f).sum = (as.map f).sum := by
  induction as with
  | nil => rfl
  | cons a as ih =>
      rw [List.forall_mem_cons] at h
      rw [List.filter_cons, List.map_cons, List.sum_cons, ← ih h.2]
      cases hp : p a with
      | true => simp
      | false => simp [h.1 hp]

/-- Paths are counted once each, and the repeated ones again for each time they come back. -/
theorem length_eq_add_sum_repeats (paths : List String) : paths.length =
    paths.dedup.length + ((repeatsAfter [] paths).map fun p => paths.count p - 1).sum := by
  have honce : ∀ p ∈ paths.dedup, decide (2 ≤ paths.count p) = false → paths.count p - 1 = 0 := by
    intro p _ hcount
    rw [decide_eq_false_iff_not] at hcount
    omega
  have hsplit : ∀ p ∈ paths.dedup, paths.count p = 1 + (paths.count p - 1) := by
    intro p hp
    have hpos := List.count_pos_iff.mpr (List.mem_dedup.mp hp)
    omega
  calc paths.length
      = (paths.dedup.map fun p => paths.count p).sum := (List.sum_map_count_dedup_eq_length _).symm
    _ = (paths.dedup.map fun p => 1 + (paths.count p - 1)).sum := by
        rw [List.map_congr_left hsplit]
    _ = paths.dedup.length + (paths.dedup.map fun p => paths.count p - 1).sum := by
        rw [List.sum_map_add]
        simp
    _ = paths.dedup.length + ((repeatsAfter [] paths).map fun p => paths.count p - 1).sum := by
        rw [← sum_map_filter_of_eq_zero honce, ((repeatsAfter_perm paths).map _).sum_eq]

end Blueprint
