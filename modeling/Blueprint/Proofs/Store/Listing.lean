import Blueprint.Proofs.Store.Directory

/-!
# What a listing tells

A directory is listed whatever its files hold. There is one entry for each file with the extension
of projects, in the order of their names, and the number of blocks in it is that of the graph that
loading gives. Where loading gives none, the number is zero.
-/

namespace Blueprint.DirectoryStore

open Disk

variable {s : DirectoryStore} {name : String} {p : Path}

/-- The number of blocks that loading a project gives. -/
def loadedCount : Except StoreFailure (Option Graph) → Nat
  | .ok (some g) => g.nodeCount
  | .ok none => 0
  | .error _ => 0

theorem readGraph_of_not_present (h : ¬ s.disk.present p) (name : String) :
    ∃ e, s.readGraph name p = .error e := by
  cases hstat : s.disk.stat p with
  | ok entry => exact absurd (present_of_stat hstat) h
  | error fault =>
      refine ⟨.access fault.text, ?_⟩
      rw [readGraph, readText, readBytes, hstat]
      rfl

/-- Listing and loading read one file, and count alike. -/
theorem nodeCount_entryOf (h : ProjectName.check name = .ok ()) :
    (s.entryOf name).nodeCount = loadedCount (s.load name) := by
  rw [load_of_check h, entryOf]
  by_cases hpresent : s.disk.present (s.projectPath name)
  · rw [if_pos hpresent]
    cases s.readGraph name (s.projectPath name) <;> rfl
  · obtain ⟨e, he⟩ := readGraph_of_not_present hpresent name
    rw [if_neg hpresent, he]
    rfl

theorem entries_of_stat_error {e : SystemFault} (h : s.disk.stat s.dir = .error e) :
    s.entries = .ok [] := by
  rw [entries, present, h]
  rfl

theorem entries_of_stat_file {bytes : List UInt8} (h : s.disk.stat s.dir = .ok (.file bytes)) :
    s.entries = .error (.access SystemFault.notDirectory.text) := by
  have hlist : s.disk.list s.dir = .error .notDirectory := by
    rw [Disk.list, h]
    rfl
  rw [entries, if_pos (present_of_stat h), hlist]

/-- Listed are the stems of the files with the extension of projects. -/
theorem filterMap_projectOf?_eq (files : List String) : files.filterMap projectOf? =
    (files.filter fun file => (splitExtension file).2 = some "json").map
      fun file => (splitExtension file).1 := by
  induction files with
  | nil => rfl
  | cons file files ih =>
      rw [List.filterMap_cons, List.filter_cons, projectOf?, ih]
      obtain ⟨stem, ext?, hsplit⟩ : ∃ stem ext?, splitExtension file = (stem, ext?) := ⟨_, _, rfl⟩
      cases ext? with
      | none => simp [hsplit]
      | some ext => by_cases hext : ext = "json" <;> simp [hsplit, fileExtension, hext]

/-- Where the path of the store leads to a directory, its projects are listed whatever its files
hold: one entry for each file with the extension of projects, with the stem of the file as its
name, sorted by name, and with the number of blocks that loading gives. -/
theorem entries_tell_files (s : DirectoryStore) :
    match s.disk.stat s.dir with
    | .ok .directory => ∃ l es, s.disk.Opens s.dir l ∧ s.entries = .ok es ∧
        (es.map ProjectEntry.name).Perm
          (((s.disk.children l).filter fun file => (splitExtension file).2 = some "json").map
            fun file => (splitExtension file).1) ∧
        (es.Pairwise fun a b => a.name ≤ b.name) ∧
        ∀ e ∈ es, ProjectName.check e.name = .ok () → e.nodeCount = loadedCount (s.load e.name)
    | .ok (.file _) => s.entries = .error (.access SystemFault.notDirectory.text)
    | .error _ => s.entries = .ok [] := by
  cases h : s.disk.stat s.dir with
  | error e => exact entries_of_stat_error h
  | ok entry =>
      cases entry with
      | file bytes => exact entries_of_stat_file h
      | directory =>
          obtain ⟨l, hopens⟩ := stat_eq_directory_iff.mp h
          have hperm := sortByName_perm ProjectEntry.name ((s.projects l).map s.entryOf)
          refine ⟨l, _, hopens, entries_of_opens hopens, ?_, pairwise_sortByName _ _, ?_⟩
          · rw [← filterMap_projectOf?_eq]
            refine (hperm.map ProjectEntry.name).trans (.of_eq ?_)
            rw [List.map_map]
            exact List.map_id (s.projects l)
          · intro e he hname
            obtain ⟨name, -, rfl⟩ := List.mem_map.mp (hperm.subset he)
            exact nodeCount_entryOf hname

/-- A directory with a snapshot, files that are none, and a directory with the extension of one. -/
def cluttered : DirectoryStore where
  dir := ⟨"store"⟩
  disk := ⟨[], [(["store"], .directory), (["store", "old.json"], .directory),
    (["store", " .json"], .file "[".toUTF8.toList), (["store", "a..json"], .file [0xFF]),
    (["store", "trips.json"], .file ("\x7b\"meta\":\x7b\"name\":\"Trips\"\x7d," ++
      "\"valueObjects\":[\x7b\"id\":\"vo-1\",\"name\":\"Fare\"\x7d]\x7d").toUTF8.toList),
    (["store", ".json"], .file []), (["store", "notes.txt"], .file [])]⟩

theorem entries_tell_files_of_cluttered : ∃ es, cluttered.entries = .ok es ∧
    (es.map ProjectEntry.name).Perm ["old", " ", "a.", "trips"] ∧
    (∀ e ∈ es, e.name = "trips" → e.nodeCount = 1) ∧
    ∀ e ∈ es, e.name = "a." → e.nodeCount = 0 := by
  have h := entries_tell_files cluttered
  have hstat : cluttered.disk.stat cluttered.dir = .ok .directory := by decide
  simp only [hstat] at h
  obtain ⟨l, es, hopens, hes, hperm, -, hcounts⟩ := h
  have hlocate : cluttered.disk.locate cluttered.dir = .ok ["store"] := by decide
  obtain rfl : ["store"] = l := Except.ok.inj (hlocate.symm.trans hopens.located)
  refine ⟨es, hes, hperm.trans (.of_eq (by decide)), fun e he hname => ?_,
    fun e he hname => ?_⟩
  · rw [hcounts e he (by rw [hname]; decide), hname]
    decide +kernel
  · rw [hcounts e he (by rw [hname]; decide), hname]
    decide

end Blueprint.DirectoryStore
