import Blueprint.Proofs.Disk.Shape
import Blueprint.Proofs.Store.Atomicity

/-!
# A file of its own for every project

The file of a project is right inside the directory of the store, and its name and the name of the
project tell each other. Saving and deleting a project change no other file but the lock file and
read none, and loading looks at the one file only. A name that is refused touches nothing.
-/

namespace Blueprint

open Disk

theorem ProjectName.exists_of_check_error {name : String} {e : StoreFailure}
    (h : check name = .error e) : ∃ reason, e = .invalidName name reason := by
  rw [check] at h
  split at h
  · exact ⟨_, (Except.error.inj h).symm⟩
  · cases h

namespace DirectoryStore

variable {s : DirectoryStore} {p : Path} {name other : String} {l : Location}

/-! ### Reading nothing -/

/-- How a change of a store ends, and the disk after it. -/
def outcome (r : Except StoreFailure Unit × DirectoryStore) : Except StoreFailure Unit × Disk :=
  (r.1, r.2.disk)

/-- A blind operation stays blind under the lock. -/
theorem endAlike_locked {op : Operation} (hop : Blind op) {d : Disk} (h : s.disk.SameShape d) :
    EndAlike (outcome (s.locked op)) (outcome (locked { s with disk := d } op)) := by
  simp only [locked, access]
  obtain ⟨x, d₁, d₁', hd, hd', h₁⟩ := (blind_makeDirectories s.dir _ _ h).exists_eq
  simp only at hd hd'
  rw [hd, hd']
  cases x with
  | error e => exact ⟨rfl, h₁⟩
  | ok _ =>
      obtain ⟨x, d₂, d₂', hd, hd', h₂⟩ := (blind_replace s.lockPath [] d₁ d₁' h₁).exists_eq
      simp only [lockPath] at hd hd'
      simp only [Except.mapError, hd, hd']
      cases x with
      | error e => exact ⟨rfl, h₂⟩
      | ok _ => exact hop d₂ d₂' h₂

/-- A change of a store touches no file but the lock file and the one at a path. -/
structure TouchesOnly (s : DirectoryStore) (p : Path)
    (change : DirectoryStore → Except StoreFailure Unit × DirectoryStore) : Prop where
  dir : (change s).2.dir = s.dir
  writes : s.Guarded p (outcome (change s))
  reads : ∀ d, s.disk.SameShape d →
    EndAlike (outcome (change s)) (outcome (change { s with disk := d }))

section Accepted

variable (h : ProjectName.check name = .ok ())
include h

theorem touchesOnly_save (s : DirectoryStore) (g : Graph) :
    s.TouchesOnly (s.projectPath name) (·.save name g) := by
  refine ⟨?_, guarded_save s name g, fun d hd => ?_⟩
  · simp only [save, h]
    rfl
  · simp only [save, h]
    refine endAlike_locked (fun d d' hd => ?_) hd
    exact (blind_writeText (s.projectPath name) (Snapshot.write g) d d' hd).mapError _

theorem touchesOnly_delete (s : DirectoryStore) :
    s.TouchesOnly (s.projectPath name) (·.delete name) := by
  refine ⟨?_, guarded_delete s name, fun d hd => ?_⟩
  · simp only [delete, h]
    rfl
  · simp only [delete, h]
    refine endAlike_locked (fun d d' hd => ?_) hd
    obtain ⟨x, d₁, d₁', hd, hd', h₁⟩ := (blind_removeFile (s.projectPath name) d d' hd).exists_eq
    simp only [projectPath] at hd hd' ⊢
    rw [hd, hd']
    -- A file that is not there counts as deleted, and everything else goes on as it ended.
    cases x with
    | ok _ => exact ⟨rfl, h₁⟩
    | error e => cases e <;> exact ⟨rfl, h₁⟩

end Accepted

/-! ### Paths of project files -/

/-- A path leads to the file that a project has for itself. -/
structure IsFileOf (s : DirectoryStore) (name : String) (p : Path) : Prop where
  child : p.components = s.dir.components ++ [.name (name ++ ".json")]
  splits : p.fileName?.map splitExtension = some (name, some "json")
  located : ∀ (d : Disk) (l : Location), d.locate p = .ok l →
    ∃ above, d.walk d.cwd s.dir.components = .ok above ∧ l = above ++ [name ++ ".json"]
  notLock : ¬ p.same s.lockPath
  notLockLocated : ∀ (d : Disk) (l : Location), d.locate p = .ok l → d.locate s.lockPath ≠ .ok l

theorem fileOf_eq (name : String) : fileOf name = name ++ ".json" := by
  rw [fileOf, String.append_assoc]
  rfl

theorem isFileOf_projectPath (h : ProjectName.check name = .ok ()) (s : DirectoryStore) :
    s.IsFileOf name (s.projectPath name) := by
  have hne : name ≠ "" := ProjectName.ne_empty_of_check h
  have hfile : IsName (fileOf name) := isName_fileOf (ProjectName.not_mem_of_check h).1
  have hcomponents : (s.projectPath name).components = s.dir.components ++ [.name (fileOf name)] :=
    Path.components_push s.dir hfile
  constructor
  case child => rw [hcomponents, fileOf_eq]
  case splits =>
    rw [Path.fileName?, hcomponents, List.getLast?_concat]
    exact congrArg some (splitExtension_append hne (by decide))
  case located =>
    intro d l hl
    rw [← fileOf_eq]
    exact exists_walk_of_locate_push hfile hl
  case notLock =>
    rw [Path.same_iff, hcomponents, lockPath, Path.components_push s.dir isName_lockName]
    simpa using fileOf_ne_lockName hne
  case notLockLocated => exact fun d l hl => Projects.locate_projectPath_ne_lockPath h hl

theorem eq_of_projectPath_same (h : ProjectName.check name = .ok ())
    (hother : ProjectName.check other = .ok ())
    (hsame : (s.projectPath name).same (s.projectPath other)) : name = other := by
  have hfile : IsName (fileOf name) := isName_fileOf (ProjectName.not_mem_of_check h).1
  have hfile' : IsName (fileOf other) := isName_fileOf (ProjectName.not_mem_of_check hother).1
  rw [Path.same_iff, projectPath_eq, projectPath_eq, Path.components_push s.dir hfile,
    Path.components_push s.dir hfile'] at hsame
  exact fileOf_injective (by simpa using hsame)

/-- A refused name touches nothing. An accepted one has a file of its own right in the directory of
the store, which is not the lock file: saving and deleting touch no other project file, loading
looks at it alone, and no other accepted name has the same path. -/
theorem touches_own_file_only (s : DirectoryStore) (name : String) :
    match ProjectName.check name with
    | .error e => (∃ reason, e = .invalidName name reason) ∧
        (∀ g, s.save name g = (.error e, s)) ∧ s.load name = .error e ∧
        s.delete name = (.error e, s)
    | .ok () => s.IsFileOf name (s.projectPath name) ∧
        (∀ g, s.TouchesOnly (s.projectPath name) (·.save name g)) ∧
        s.TouchesOnly (s.projectPath name) (·.delete name) ∧
        (∀ d : Disk, d.stat (s.projectPath name) = s.disk.stat (s.projectPath name) →
          ({ s with disk := d } : DirectoryStore).load name = s.load name) ∧
        ∀ other, ProjectName.check other = .ok () → other ≠ name →
          ¬ (s.projectPath other).same (s.projectPath name) := by
  cases h : ProjectName.check name with
  | error e =>
      refine ⟨ProjectName.exists_of_check_error h, fun g => ?_, load_of_check_error h, ?_⟩
      · rw [save, h]
      · rw [delete, h]
  | ok _ =>
      refine ⟨isFileOf_projectPath h s, touchesOnly_save h s, touchesOnly_delete h s, ?_, ?_⟩
      · exact fun d hstat => load_congr rfl fun _ => hstat
      · exact fun other hother hne hsame => hne (eq_of_projectPath_same hother h hsame)

/-- Names that are nothing but dots or look like file names, beside one that leads elsewhere. -/
theorem touches_own_file_only_of_dots :
    ProjectName.check "..." = .ok () ∧ ProjectName.check ".a.json" = .ok () ∧
      ¬ (prepared.projectPath ".a.json").same (prepared.projectPath "...") ∧
      ∀ g, prepared.save "../a" g =
        (.error (.invalidName "../a" "name contains a path separator"), prepared) := by
  have hdots : ProjectName.check "..." = .ok () := by decide
  have hfile : ProjectName.check ".a.json" = .ok () := by decide
  have hup : ProjectName.check "../a" =
      .error (.invalidName "../a" "name contains a path separator") := by decide
  have haccepted := touches_own_file_only prepared "..."
  have hrefused := touches_own_file_only prepared "../a"
  simp only [hdots] at haccepted
  simp only [hup] at hrefused
  exact ⟨hdots, hfile, haccepted.2.2.2.2 ".a.json" hfile (by decide), hrefused.2.1⟩

end DirectoryStore

end Blueprint
