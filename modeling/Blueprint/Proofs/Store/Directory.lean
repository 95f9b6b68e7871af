import Blueprint.Proofs.Snapshot.RoundTrip
import Blueprint.Proofs.Store.Name

/-!
# Projects in an open directory

A store is ready when its path leads to a directory and its lock file can be made there. Then
saving puts one file into the directory and deleting drops one, both besides the lock file, and
listing tells exactly the projects that have a file.
-/

namespace Blueprint.DirectoryStore

open Disk

variable {s s' : DirectoryStore} {l : Location} {name : String} {g : Graph}

/-! ### Reading -/

theorem readGraph_congr {p : Path} (h : s'.disk.stat p = s.disk.stat p) (name : String) :
    s'.readGraph name p = s.readGraph name p := by
  rw [readGraph, readGraph, readText, readText, readBytes, readBytes, h]

theorem load_of_check (h : ProjectName.check name = .ok ()) : s.load name =
    if s.disk.present (s.projectPath name) then
      (s.readGraph name (s.projectPath name)).map some else .ok none := by
  simp only [load, h, ok_bind]
  by_cases hp : s.disk.present (s.projectPath name)
  · simp only [hp, if_true]
    cases s.readGraph name (s.projectPath name) <;> rfl
  · simp only [hp]
    rfl

theorem load_of_check_error {e : StoreFailure} (h : ProjectName.check name = .error e) :
    s.load name = .error e := by
  simp only [load, h, error_bind]

theorem load_congr (hdir : s'.dir = s.dir) (h : ProjectName.check name = .ok () →
      s'.disk.stat (s.projectPath name) = s.disk.stat (s.projectPath name)) :
    s'.load name = s.load name := by
  have hpath : s'.projectPath name = s.projectPath name := by rw [projectPath, projectPath, hdir]
  cases hname : ProjectName.check name with
  | error e => rw [load_of_check_error hname, load_of_check_error hname]
  | ok _ =>
      have hstat := h hname
      rw [load_of_check hname, load_of_check hname, hpath, readGraph_congr hstat, present, present,
        hstat]

/-- A graph is read back from its snapshot. -/
theorem readGraph_of_stat {p : Path}
    (h : s.disk.stat p = .ok (.file (Snapshot.write g).toUTF8.toList)) : s.readGraph name p =
      if g.heading.name = "" then .error (.corrupted name Failure.unnamedSnapshot.message)
      else .ok g := by
  rw [readGraph, readText_of_stat h, Except.mapError, ok_bind, Snapshot.load, Snapshot.read_write]
  split_ifs <;> rfl

theorem load_of_stat (hname : ProjectName.check name = .ok ())
    (h : s.disk.stat (s.projectPath name) = .ok (.file (Snapshot.write g).toUTF8.toList)) :
    s.load name =
      if g.heading.name = "" then .error (.corrupted name Failure.unnamedSnapshot.message)
      else .ok (some g) := by
  rw [load_of_check hname, if_pos (present_of_stat h), readGraph_of_stat h]
  split_ifs <;> rfl

theorem load_of_stat_notFound (hname : ProjectName.check name = .ok ())
    (h : s.disk.stat (s.projectPath name) = .error .notFound) : s.load name = .ok none := by
  simp [load_of_check hname, present, h]

/-! ### Sorting -/

section Sorting

variable {α : Type} {key : α → String} {as bs : List α}

theorem sortByName_perm (key : α → String) (as : List α) : (sortByName key as).Perm as :=
  List.mergeSort_perm _ _

theorem pairwise_sortByName (key : α → String) (as : List α) :
    (sortByName key as).Pairwise fun a b => key a ≤ key b := by
  have htrans : ∀ a b c : α, decide (key a ≤ key b) → decide (key b ≤ key c) →
      decide (key a ≤ key c) := by
    simp only [decide_eq_true_eq]
    exact fun a b c => String.le_trans
  have htotal : ∀ a b : α, decide (key a ≤ key b) || decide (key b ≤ key a) := by
    simpa using fun a b => String.le_total (key a) (key b)
  exact (List.pairwise_mergeSort htrans htotal as).imp of_decide_eq_true

/-- Names that tell their bearers apart leave one order only. -/
theorem sortByName_eq_of_perm (h : as.Perm bs) (hbs : bs.Pairwise fun a b => key a ≤ key b)
    (hkey : ∀ a ∈ as, ∀ b ∈ as, key a = key b → a = b) : sortByName key as = bs := by
  have hperm := sortByName_perm key as
  refine (hperm.trans h).eq_of_pairwise (fun a b ha hb hab hba => ?_)
    (pairwise_sortByName key as) hbs
  exact hkey a (hperm.subset ha) b (h.symm.subset hb) (String.le_antisymm hab hba)

theorem filter_sortByName (p : α → Bool) (hkey : ∀ a ∈ as, ∀ b ∈ as, key a = key b → a = b) :
    (sortByName key as).filter p = sortByName key (as.filter p) := by
  refine (sortByName_eq_of_perm ((sortByName_perm key as).filter p).symm
    ((pairwise_sortByName key as).filter p) fun a ha b hb => ?_).symm
  exact hkey a (List.mem_of_mem_filter ha) b (List.mem_of_mem_filter hb)

end Sorting

/-! ### Listing -/

/-- What a listing tells about a project. -/
def entryOf (s : DirectoryStore) (name : String) : ProjectEntry :=
  ⟨name, match s.readGraph name (s.projectPath name) with
    | .ok g => g.nodeCount
    | .error _ => 0⟩

/-- The projects whose files are in a directory. -/
def projects (s : DirectoryStore) (l : Location) : List String :=
  (s.disk.children l).filterMap projectOf?

theorem entry?_eq (file : String) : s.entry? file = (projectOf? file).map s.entryOf := by
  obtain ⟨name, ext?, hsplit⟩ : ∃ name ext?, splitExtension file = (name, ext?) := ⟨_, _, rfl⟩
  unfold entry? projectOf?
  rw [hsplit]
  cases ext? with
  | none => rfl
  | some ext =>
      by_cases hext : ext = fileExtension
      · have hfile : s.dir.push file = s.projectPath name := by
          rw [projectPath, (eq_append_of_splitExtension hsplit).1, hext]
        simp only [hext, if_true, hfile, Option.map_some]
        rfl
      · simp [hext]

theorem entries_of_opens (h : s.disk.Opens s.dir l) :
    s.entries = .ok (sortByName ProjectEntry.name ((s.projects l).map s.entryOf)) := by
  have hstat : s.disk.stat s.dir = .ok .directory := stat_eq_directory_iff.mpr ⟨l, h⟩
  have hlist : s.disk.list s.dir = .ok (s.disk.children l) := by
    rw [Disk.list, hstat, ok_bind, h.located]
    rfl
  have hentries : (s.disk.children l).filterMap s.entry? = (s.projects l).map s.entryOf := by
    rw [projects, List.map_filterMap]
    exact List.filterMap_congr fun file _ => entry?_eq file
  rw [entries, if_pos (present_of_stat hstat), hlist]
  simp only [hentries]

theorem mem_projects_iff :
    name ∈ s.projects l ↔ name ≠ "" ∧ s.disk.entry? (l ++ [fileOf name]) ≠ none := by
  simp only [projects, List.mem_filterMap, projectOf?_eq_some_iff, ← mem_children_iff]
  constructor
  · rintro ⟨_, hfile, rfl, hname⟩
    exact ⟨hname, hfile⟩
  · rintro ⟨hname, hfile⟩
    exact ⟨_, hfile, rfl, hname⟩

theorem entryOf_inj {a b : ProjectEntry} {names : List String}
    (ha : a ∈ names.map s.entryOf) (hb : b ∈ names.map s.entryOf) (h : a.name = b.name) :
    a = b := by
  obtain ⟨m, -, rfl⟩ := List.mem_map.mp ha
  obtain ⟨n, -, rfl⟩ := List.mem_map.mp hb
  obtain rfl : m = n := h
  rfl

theorem entryOf_congr (hdir : s'.dir = s.dir)
    (h : s'.disk.stat (s.projectPath name) = s.disk.stat (s.projectPath name)) :
    s'.entryOf name = s.entryOf name := by
  have hpath : s'.projectPath name = s.projectPath name := by rw [projectPath, projectPath, hdir]
  rw [entryOf, entryOf, hpath, readGraph_congr h]

/-! ### Changes of listings -/

theorem projects_subset {d : Disk} (h : s.disk.Extends d) :
    s.projects l ⊆ projects { s with disk := d } l :=
  List.filterMap_subset projectOf? h.children_subset

theorem filterMap_projectOf?_filter {files : List String} (hname : name ≠ "") :
    (files.filter (· != fileOf name)).filterMap projectOf? =
      (files.filterMap projectOf?).filter (· != name) := by
  rw [List.filterMap_filter, List.filter_filterMap]
  congr 1
  funext file
  by_cases hfile : file = fileOf name
  · simp [hfile, projectOf?_eq_some_iff.mpr ⟨rfl, hname⟩, Option.filter]
  · cases hp : projectOf? file with
    | none => simp [hfile]
    | some other =>
        have hother : other ≠ name := by
          rintro rfl
          exact hfile (projectOf?_eq_some_iff.mp hp).1
        simp [hfile, hother, Option.filter]

theorem filterMap_projectOf?_filter_lockName (files : List String) :
    (files.filter (· != lockName)).filterMap projectOf? = files.filterMap projectOf? := by
  rw [List.filterMap_filter]
  congr 1
  funext file
  by_cases hfile : file = lockName
  · simp [hfile, projectOf?_lockName]
  · simp [hfile]

/-- The disk with the lock file in a directory. -/
def lockedDisk (s : DirectoryStore) (l : Location) : Disk :=
  s.disk.put (l ++ [lockName]) (.file [])

/-! ### Ready stores -/

/-- The store can lock the directory that its path leads to. -/
structure Ready (s : DirectoryStore) (l : Location) : Prop where
  opens : s.disk.Opens s.dir l
  lock : (s.disk.replace (s.dir.push lockName) []).1 = .ok ()

namespace Ready

section Locking

variable (h : s.Ready l)
include h

theorem locate_lock : s.disk.locate (s.dir.push lockName) = .ok (l ++ [lockName]) := by
  obtain ⟨l', hl', _⟩ := replace_eq_ok_iff.mp (Prod.ext h.lock rfl)
  rw [hl', ((h.opens.locate_push_iff isName_lockName).mp hl').2.2]

theorem entry?_lock : s.disk.entry? (l ++ [lockName]) ≠ some .directory := by
  obtain ⟨l', hl', _, hentry, _⟩ := replace_eq_ok_iff.mp (Prod.ext h.lock rfl)
  rwa [((h.opens.locate_push_iff isName_lockName).mp hl').2.2] at hentry

theorem replace_lock :
    s.disk.replace (s.dir.push lockName) [] = (.ok (), s.lockedDisk l) :=
  replace_eq_ok_iff.mpr
    ⟨_, h.locate_lock, asksDirectory_push _ isName_lockName, h.entry?_lock, rfl⟩

theorem keeps_lockedDisk : s.disk.Keeps (s.lockedDisk l) := keeps_put h.entry?_lock

/-- A store stays ready while directories stay and none takes the place of the lock file. -/
theorem of_keeps {d : Disk} (hd : s.disk.Keeps d)
    (hentry : d.entry? (l ++ [lockName]) ≠ some .directory) :
    Ready { s with disk := d } l := by
  refine ⟨h.opens.of_keeps hd, ?_⟩
  have hlock : d.replace (s.dir.push lockName) [] = (.ok (), d.put (l ++ [lockName]) (.file [])) :=
    replace_eq_ok_iff.mpr
      ⟨_, hd.locate h.locate_lock, asksDirectory_push _ isName_lockName, hentry, rfl⟩
  rw [hlock]

theorem locked (op : Operation) : s.locked op =
    ((op (s.lockedDisk l)).1, { s with disk := (op (s.lockedDisk l)).2 }) := by
  rw [DirectoryStore.locked, h.opens.makeDirectories]
  simp only [access, Except.mapError, h.replace_lock]

end Locking

end Ready

/-! ### Saving and deleting -/

/-- The disk after a project is saved into a directory. -/
def savedDisk (s : DirectoryStore) (l : Location) (name : String) (g : Graph) : Disk :=
  (s.lockedDisk l).put (l ++ [fileOf name]) (.file (Snapshot.write g).toUTF8.toList)

/-- The disk after a project is deleted from a directory. -/
def deletedDisk (s : DirectoryStore) (l : Location) (name : String) : Disk :=
  (s.lockedDisk l).drop (l ++ [fileOf name])

theorem entry?_lockedDisk {m : Location} : Disk.entry? (s.lockedDisk l) m =
    if m = l ++ [lockName] then some (.file []) else s.disk.entry? m := entry?_put (by simp)

theorem entry?_savedDisk {m : Location} : Disk.entry? (s.savedDisk l name g) m =
    if m = l ++ [fileOf name] then some (.file (Snapshot.write g).toUTF8.toList)
    else Disk.entry? (s.lockedDisk l) m := entry?_put (by simp)

theorem entry?_deletedDisk {m : Location} : Disk.entry? (s.deletedDisk l name) m =
    if m = l ++ [fileOf name] then none else Disk.entry? (s.lockedDisk l) m := entry?_drop (by simp)

theorem entry?_lockedDisk_fileOf (hname : name ≠ "") :
    Disk.entry? (s.lockedDisk l) (l ++ [fileOf name]) = s.disk.entry? (l ++ [fileOf name]) := by
  rw [entry?_lockedDisk, if_neg]
  simpa using fileOf_ne_lockName hname

theorem filterMap_children_lockedDisk :
    ((s.lockedDisk l).children l).filterMap projectOf? = s.projects l := by
  rw [lockedDisk, children_put, List.filterMap_cons, projectOf?_lockName,
    filterMap_projectOf?_filter_lockName]
  rfl

section Projects

variable (hname : name ≠ "")
include hname

theorem projects_savedDisk (g : Graph) :
    projects { s with disk := s.savedDisk l name g } l =
      name :: (s.projects l).filter (· != name) := by
  rw [projects, savedDisk, children_put, List.filterMap_cons,
    projectOf?_eq_some_iff.mpr ⟨rfl, hname⟩, filterMap_projectOf?_filter hname,
    filterMap_children_lockedDisk]

theorem projects_deletedDisk :
    projects { s with disk := s.deletedDisk l name } l = (s.projects l).filter (· != name) := by
  rw [projects, deletedDisk, children_drop, filterMap_projectOf?_filter hname,
    filterMap_children_lockedDisk]

end Projects

namespace Ready

section Keeping

variable (h : s.Ready l) (hname : name ≠ "")
  (hfile : s.disk.entry? (l ++ [fileOf name]) ≠ some .directory)
include h hname hfile

theorem keeps_savedDisk (g : Graph) : s.disk.Keeps (s.savedDisk l name g) :=
  h.keeps_lockedDisk.trans (keeps_put (by rwa [entry?_lockedDisk_fileOf hname]))

theorem keeps_deletedDisk : s.disk.Keeps (s.deletedDisk l name) :=
  h.keeps_lockedDisk.trans (keeps_drop (by rwa [entry?_lockedDisk_fileOf hname]))

theorem savedDisk (g : Graph) : Ready { s with disk := s.savedDisk l name g } l := by
  refine h.of_keeps (h.keeps_savedDisk hname hfile g) ?_
  rw [entry?_savedDisk, if_neg (by simpa using (fileOf_ne_lockName hname).symm),
    entry?_lockedDisk, if_pos rfl]
  simp

theorem deletedDisk : Ready { s with disk := s.deletedDisk l name } l := by
  refine h.of_keeps (h.keeps_deletedDisk hname hfile) ?_
  rw [entry?_deletedDisk, if_neg (by simpa using (fileOf_ne_lockName hname).symm),
    entry?_lockedDisk, if_pos rfl]
  simp

end Keeping

section Writing

variable (h : s.Ready l) (hname : ProjectName.check name = .ok ())
  (hloc : s.disk.locate (s.projectPath name) = .ok (l ++ [fileOf name]))
  (hfile : s.disk.entry? (l ++ [fileOf name]) ≠ some .directory)
include h hname hloc hfile

theorem save_eq (g : Graph) :
    s.save name g = (.ok (), { s with disk := s.savedDisk l name g }) := by
  have hs : IsName (fileOf name) := isName_fileOf (ProjectName.not_mem_of_check hname).1
  have hne : name ≠ "" := ProjectName.ne_empty_of_check hname
  have hwrite : (s.lockedDisk l).writeText (s.projectPath name) (Snapshot.write g) =
      (.ok (), s.savedDisk l name g) :=
    (h.opens.of_keeps h.keeps_lockedDisk).writeText_push hs (h.keeps_lockedDisk.locate hloc)
      (by rwa [entry?_lockedDisk_fileOf hne]) _
  rw [save, hname]
  simp only [h.locked, hwrite, Except.mapError]

theorem delete_eq : s.delete name = (.ok (), { s with disk := s.deletedDisk l name }) := by
  have hs : IsName (fileOf name) := isName_fileOf (ProjectName.not_mem_of_check hname).1
  have hne : name ≠ "" := ProjectName.ne_empty_of_check hname
  have hlocked := h.keeps_lockedDisk.locate hloc
  rw [← entry?_lockedDisk_fileOf hne] at hfile
  rw [delete, hname]
  cases hentry : Disk.entry? (s.lockedDisk l) (l ++ [fileOf name]) with
  | none =>
      have hremove : (s.lockedDisk l).removeFile (s.projectPath name) =
        (.error .notFound, s.deletedDisk l name) := removeFile_push_of_none hs hlocked hentry
      simp only [h.locked, hremove]
  | some e =>
      cases e with
      | directory => exact absurd hentry hfile
      | file bytes =>
          have hremove : (s.lockedDisk l).removeFile (s.projectPath name) =
            (.ok (), s.deletedDisk l name) := removeFile_push hs hlocked hentry
          simp only [h.locked, hremove, access, Except.mapError]

end Writing

end Ready

end Blueprint.DirectoryStore
