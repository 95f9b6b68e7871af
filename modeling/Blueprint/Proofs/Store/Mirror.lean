import Blueprint.Proofs.Disk.Change
import Blueprint.Proofs.Keyed
import Blueprint.Proofs.Store.Directory
import Blueprint.Store.Memory

/-!
# Directories that mirror memory

A directory mirrors a store in memory when the file of each project is the snapshot of its graph,
and there are no other project files. Saving, deleting, loading and listing tell the two apart
only where a file name does not fit or a graph has no name.
-/

/-!
### Projects in memory

What putting and deleting does to every look-up, and that the names stay in increasing order.
-/

namespace Blueprint.MemoryStore

variable {ps : List (String × Graph)} {m : MemoryStore} {name other : String} {g : Graph}

theorem put_eq (name : String) (g : Graph) (ps : List (String × Graph)) :
    put name g ps = Keyed.insert name g ps := by
  induction ps with
  | nil => rfl
  | cons p rest ih =>
      obtain ⟨n, a⟩ := p
      rw [put, Keyed.insert, Keyed.compare_eq, ih]
      split_ifs <;> rfl

theorem find?_put : find? ⟨put name g ps⟩ other =
    if other = name then some g else find? ⟨ps⟩ other := by
  rw [find?, put_eq, Keyed.find?_insert, apply_ite (Option.map _)]
  simp only [eq_comm]
  rfl

theorem find?_filter : find? ⟨ps.filter (·.1 != name)⟩ other =
    if other = name then none else find? ⟨ps⟩ other := by
  rw [find?, find?_filter_key]
  split_ifs <;> rfl

/-- Names increase along the list. -/
def Sorted (ps : List (String × Graph)) : Prop := ps.Pairwise fun a b => a.1 < b.1

theorem Sorted.put (h : Sorted ps) : Sorted (put name g ps) := by
  rw [put_eq]
  exact Keyed.Sorted.insert h name g

theorem find?_eq_some_iff (h : Sorted ps) : find? ⟨ps⟩ name = some g ↔ (name, g) ∈ ps :=
  Keyed.Sorted.find?_value_eq_some_iff h

theorem Sorted.nodup_names (h : Sorted ps) : (ps.map (·.1)).Nodup := Keyed.Sorted.nodup_keys h

end Blueprint.MemoryStore

/-! ### Directories -/

namespace Blueprint.DirectoryStore

open Disk

/-- The operating system takes the file name of a project in a directory. -/
def Fits (dir : Path) (name : String) : Prop :=
  Takes (dir.push (fileOf name)) ∧ (fileOf name).utf8ByteSize ≤ nameLimit

instance (dir : Path) (name : String) : Decidable (Fits dir name) :=
  inferInstanceAs (Decidable (_ ∧ _))

variable {s : DirectoryStore} {l : Location} {m : MemoryStore} {name other : String} {g : Graph}

/-- The project files of a ready directory are the snapshots of the graphs in memory. -/
structure Mirrors (s : DirectoryStore) (l : Location) (m : MemoryStore) : Prop where
  ready : s.Ready l
  listed : (s.projects l).Nodup
  files : ∀ name, name ≠ "" → s.disk.entry? (l ++ [fileOf name]) =
    (m.find? name).map fun g => .file (Snapshot.write g).toUTF8.toList
  sorted : MemoryStore.Sorted m.projects
  sound : ∀ name g, m.find? name = some g →
    ProjectName.check name = .ok () ∧ Fits s.dir name ∧ g.heading.name ≠ ""

namespace Mirrors

section Reading

variable (h : s.Mirrors l m)
include h

theorem entry?_ne_directory (hne : name ≠ "") :
    s.disk.entry? (l ++ [fileOf name]) ≠ some .directory := by
  rw [h.files name hne]
  cases m.find? name <;> simp

theorem locate (hname : ProjectName.check name = .ok ()) (hfits : Fits s.dir name) :
    s.disk.locate (s.projectPath name) = .ok (l ++ [fileOf name]) :=
  (h.ready.opens.locate_push_iff (isName_fileOf (ProjectName.not_mem_of_check hname).1)).mpr
    ⟨hfits.1, hfits.2, rfl⟩

theorem stat (hname : ProjectName.check name = .ok ()) (hfits : Fits s.dir name) :
    s.disk.stat (s.projectPath name) =
      match m.find? name with
      | none => .error .notFound
      | some g => .ok (.file (Snapshot.write g).toUTF8.toList) := by
  have hs : IsName (fileOf name) := isName_fileOf (ProjectName.not_mem_of_check hname).1
  rw [projectPath_eq, stat_push hs (h.locate hname hfits),
    h.files name (ProjectName.ne_empty_of_check hname)]
  cases m.find? name <;> rfl

theorem load (hfits : ProjectName.check name = .ok () → Fits s.dir name) :
    s.load name = GraphStore.load m name := by
  change _ = (ProjectName.check name).map fun _ => m.find? name
  cases hname : ProjectName.check name with
  | error e => exact load_of_check_error hname
  | ok _ =>
      have hstat := h.stat hname (hfits hname)
      cases hfind : m.find? name with
      | none =>
          rw [hfind] at hstat
          exact load_of_stat_notFound hname hstat
      | some g =>
          rw [hfind] at hstat
          rw [load_of_stat hname hstat, if_neg (h.sound name g hfind).2.2]
          rfl

theorem entryOf (hfind : m.find? name = some g) : s.entryOf name = ⟨name, g.nodeCount⟩ := by
  obtain ⟨hname, hfits, hgraph⟩ := h.sound name g hfind
  have hstat := h.stat hname hfits
  rw [hfind] at hstat
  rw [DirectoryStore.entryOf, readGraph_of_stat hstat, if_neg hgraph]

/-- The projects in the directory are those in memory, in some order. -/
theorem projects_perm : (s.projects l).Perm (m.projects.map (·.1)) := by
  refine (List.perm_ext_iff_of_nodup h.listed h.sorted.nodup_names).mpr fun name => ?_
  have hmem : name ∈ m.projects.map (·.1) ↔ ∃ g, m.find? name = some g := by
    simp [MemoryStore.find?_eq_some_iff h.sorted]
  rw [mem_projects_iff, hmem]
  constructor
  · rintro ⟨hne, hfile⟩
    rw [h.files name hne, Option.ne_none_iff_exists'] at hfile
    obtain ⟨_, hfile⟩ := hfile
    obtain ⟨g, hg, -⟩ := Option.map_eq_some_iff.mp hfile
    exact ⟨g, hg⟩
  · rintro ⟨g, hg⟩
    have hne : name ≠ "" := ProjectName.ne_empty_of_check (h.sound name g hg).1
    exact ⟨hne, by simp [h.files name hne, hg]⟩

theorem entries : s.entries = GraphStore.entries m := by
  have hentry : ∀ p ∈ m.projects, s.entryOf p.1 = ⟨p.1, p.2.nodeCount⟩ := fun p hp =>
    h.entryOf ((MemoryStore.find?_eq_some_iff h.sorted).mpr hp)
  have hperm : ((s.projects l).map s.entryOf).Perm
      (m.projects.map fun p => ⟨p.1, p.2.nodeCount⟩) := by
    have hmap := h.projects_perm.map s.entryOf
    rw [List.map_map] at hmap
    rw [← List.map_congr_left hentry]
    exact hmap
  have hsorted : (m.projects.map fun p => (⟨p.1, p.2.nodeCount⟩ : ProjectEntry)).Pairwise
      fun a b => a.name ≤ b.name :=
    List.pairwise_map.mpr (h.sorted.imp fun hlt => String.not_lt.mp (String.lt_asymm hlt))
  rw [entries_of_opens h.ready.opens,
    sortByName_eq_of_perm hperm hsorted fun a ha b hb => entryOf_inj ha hb]
  rfl

end Reading

section Writing

variable (h : s.Mirrors l m) (hname : ProjectName.check name = .ok ()) (hfits : Fits s.dir name)
include h hname hfits

theorem save (hgraph : g.heading.name ≠ "") : ∃ s', s.save name g = (.ok (), s') ∧
    s'.dir = s.dir ∧ s'.Mirrors l ⟨MemoryStore.put name g m.projects⟩ := by
  have hne : name ≠ "" := ProjectName.ne_empty_of_check hname
  have hfile := h.entry?_ne_directory hne
  refine ⟨_, h.ready.save_eq hname (h.locate hname hfits) hfile g, rfl, ?_⟩
  constructor
  case ready => exact h.ready.savedDisk hne hfile g
  case listed =>
    rw [projects_savedDisk hne]
    exact List.nodup_cons.mpr ⟨by simp, h.listed.filter _⟩
  case files =>
    -- Distinct names have distinct files, and none of them is the lock file.
    intro other hother
    rw [entry?_savedDisk, entry?_lockedDisk_fileOf hother, h.files other hother,
      MemoryStore.find?_put]
    by_cases hon : other = name
    · simp [hon]
    · simp [hon, fileOf_injective.eq_iff]
  case sorted => exact h.sorted.put
  case sound =>
    intro other a hfind
    rw [MemoryStore.find?_put] at hfind
    split_ifs at hfind with hon
    · obtain rfl := Option.some_inj.mp hfind
      rw [hon]
      exact ⟨hname, hfits, hgraph⟩
    · exact h.sound other a hfind

theorem delete : ∃ s', s.delete name = (.ok (), s') ∧ s'.dir = s.dir ∧
    s'.Mirrors l ⟨m.projects.filter (·.1 != name)⟩ := by
  have hne : name ≠ "" := ProjectName.ne_empty_of_check hname
  have hfile := h.entry?_ne_directory hne
  refine ⟨_, h.ready.delete_eq hname (h.locate hname hfits) hfile, rfl, ?_⟩
  constructor
  case ready => exact h.ready.deletedDisk hne hfile
  case listed =>
    rw [projects_deletedDisk hne]
    exact h.listed.filter _
  case files =>
    intro other hother
    rw [entry?_deletedDisk, entry?_lockedDisk_fileOf hother, h.files other hother,
      MemoryStore.find?_filter]
    by_cases hon : other = name
    · simp [hon]
    · simp [hon, fileOf_injective.eq_iff]
  case sorted => exact h.sorted.filter _
  case sound =>
    intro other a hfind
    rw [MemoryStore.find?_filter] at hfind
    split_ifs at hfind with hon
    exact h.sound other a hfind

end Writing

end Mirrors

end Blueprint.DirectoryStore
