import Blueprint.Proofs.Store.Reload
import Blueprint.Store.Projects

/-!
# Steps that fail change no file

Saving and deleting a project, storing a snapshot file and writing a project to one do all that can
fail before the one change of a file. So a step that fails leaves the projects and the snapshot
files as they were; it may have made directories and the lock file of the store.
-/

namespace Blueprint

open Disk

namespace DirectoryStore

variable {s : DirectoryStore} {p : Path} {name : String} {l : Location}

/-! ### Guarded operations -/

section Guarded

variable {ε ε' : Type} {r : Except ε Unit × Disk}

/-- An operation that changes no file but the lock file and, if it succeeds, the one at a path. -/
def Guarded (s : DirectoryStore) (p : Path) (r : Except ε Unit × Disk) : Prop :=
  s.disk.SameFiles
    (fun l => r.2.locate s.lockPath = .ok l ∨ r.1 = .ok () ∧ r.2.locate p = .ok l) r.2

theorem guarded_of_atomic (h : Atomic p s.disk r) : s.Guarded p r := h.mono fun _ => .inr

theorem guarded_error (p : Path) (e : ε) : s.Guarded p (.error e, s.disk) :=
  guarded_of_atomic (atomic_error p s.disk e)

theorem Guarded.congr {r' : Except ε' Unit × Disk} (h : s.Guarded p r) (hdisk : r'.2 = r.2)
    (hok : r.1 = .ok () → r'.1 = .ok ()) : s.Guarded p r' := by
  rw [Guarded, hdisk]
  exact h.mono fun l => Or.imp_right fun ⟨hr, hl⟩ => ⟨hok hr, hl⟩

end Guarded

/-- An atomic operation is done under the lock. -/
theorem guarded_locked {op : Operation} (hop : ∀ d, Atomic p d (op d)) :
    s.Guarded p ((s.locked op).1, (s.locked op).2.disk) := by
  obtain ⟨-, hsame⟩ | ⟨d, hlock, heq⟩ := locked_cases s op
  · exact guarded_of_atomic (.of_sameFiles hsame)
  · rw [heq]
    exact (hlock.mono fun l hl => .inl ((hop d).keeps.locate hl)).trans
      ((hop d).mono fun _ => .inr)

theorem guarded_save (s : DirectoryStore) (name : String) (g : Graph) :
    s.Guarded (s.projectPath name) ((s.save name g).1, (s.save name g).2.disk) := by
  rw [save]
  split
  · exact guarded_error _ _
  · refine guarded_locked fun d => ?_
    have hwrite := atomic_writeText d (s.projectPath name) (Snapshot.write g)
    generalize d.writeText (s.projectPath name) (Snapshot.write g) = written at hwrite ⊢
    exact hwrite.mapError _

theorem guarded_delete (s : DirectoryStore) (name : String) :
    s.Guarded (s.projectPath name) ((s.delete name).1, (s.delete name).2.disk) := by
  rw [delete]
  split
  · exact guarded_error _ _
  · refine guarded_locked fun d => ?_
    have hremove := atomic_removeFile d (s.projectPath name)
    split
    · rename_i d' hd'
      rw [hd'] at hremove
      exact hremove.mono fun l hl => by cases hl.1
    · exact hremove.mapError _

end DirectoryStore

namespace Projects

open DirectoryStore

variable {s : DirectoryStore} {name : String} {l : Location}

/-! ### Steps -/

/-- What changes the projects of a store and the snapshot files beside it. -/
inductive Step where
  | save (name : String) (g : Graph)
  | saveFile (name : String) (file : Path)
  | loadToFile (name : String) (file : Path)
  | delete (name : String)
  deriving DecidableEq

namespace Step

/-- How a step ends, and the disk after it. -/
def run (s : DirectoryStore) : Step → Except Failure Unit × Disk
  | .save name g =>
    let (r, s) := Projects.save s name g
    (r, s.disk)
  | .saveFile name file =>
    let (r, s) := Projects.saveFile s s.disk name file
    (r.map fun _ => (), s.disk)
  | .loadToFile name file =>
    let (r, d) := Projects.loadToFile s s.disk name file
    (r.map fun _ => (), d)
  | .delete name =>
    let (r, s) := Projects.delete s name
    (r, s.disk)

/-- The path of the file that a step is to change. -/
def target (s : DirectoryStore) : Step → Path
  | .save name _ => s.projectPath name
  | .saveFile name _ => s.projectPath name
  | .loadToFile _ file => file
  | .delete name => s.projectPath name

theorem run_save (s : DirectoryStore) (name : String) (g : Graph) :
    (save name g).run s = ((s.save name g).1.mapError .store, (s.save name g).2.disk) := rfl

theorem run_delete (s : DirectoryStore) (name : String) :
    (delete name).run s = ((s.delete name).1.mapError .store, (s.delete name).2.disk) := rfl

/-- To store a snapshot file is to save its graph. -/
theorem run_saveFile (s : DirectoryStore) (name : String) (file : Path) :
    (saveFile name file).run s =
      match Snapshot.importFrom s.disk file with
      | .error e => (.error e, s.disk)
      | .ok g => (save name g).run s := by
  rw [run, Projects.saveFile]
  cases Snapshot.importFrom s.disk file with
  | error e => rfl
  | ok g =>
      simp only [run]
      cases (Projects.save s name g).1 <;> rfl

theorem run_loadToFile (s : DirectoryStore) (name : String) (file : Path) :
    (loadToFile name file).run s =
      match Projects.load s name with
      | .error e => (.error e, s.disk)
      | .ok g => ((s.disk.writeText file (Snapshot.write g)).1.mapError .file,
          (s.disk.writeText file (Snapshot.write g)).2) := by
  rw [run, Projects.loadToFile]
  cases Projects.load s name with
  | error e => rfl
  | ok g =>
      simp only [Snapshot.exportTo]
      cases (s.disk.writeText file (Snapshot.write g)).1 <;> rfl

/-- A step that succeeds changes no other file than the lock file and its own, and one that fails
no other than the lock file. -/
theorem guarded (s : DirectoryStore) (step : Step) : s.Guarded (step.target s) (step.run s) := by
  have hsave (name : String) (g : Graph) :
      s.Guarded (s.projectPath name) ((save name g).run s) := by
    rw [run_save]
    exact (guarded_save s name g).congr rfl mapError_eq_ok_iff.mpr
  cases step with
  | save name g => exact hsave name g
  | saveFile name file =>
      rw [run_saveFile]
      split
      · exact guarded_error _ _
      · exact hsave name _
  | loadToFile name file =>
      rw [run_loadToFile]
      split
      · exact guarded_error _ _
      · exact guarded_of_atomic ((atomic_writeText s.disk file _).mapError _)
  | delete name =>
      rw [run_delete]
      exact (guarded_delete s name).congr rfl mapError_eq_ok_iff.mpr

/-- The disk after steps, each of which is done on the disk that the one before it left. -/
def runAll (s : DirectoryStore) : List Step → Disk
  | [] => s.disk
  | step :: steps => runAll { s with disk := (step.run s).2 } steps

/-- Some step that succeeds leads to a location. -/
def Leads (s : DirectoryStore) : List Step → Location → Prop
  | [], _ => False
  | step :: steps, l =>
    ((step.run s).1 = .ok () ∧ (step.run s).2.locate (step.target s) = .ok l) ∨
      Leads { s with disk := (step.run s).2 } steps l

/-- However many steps are done, only the lock file changes and the files that the successful ones
lead to. -/
theorem sameFiles_runAll (s : DirectoryStore) (steps : List Step) :
    s.disk.SameFiles (fun l => (runAll s steps).locate s.lockPath = .ok l ∨ Leads s steps l)
      (runAll s steps) := by
  induction steps generalizing s with
  | nil => exact .refl _ s.disk
  | cons step steps ih =>
      have hrest := ih { s with disk := (step.run s).2 }
      refine ((step.guarded s).mono fun l => ?_).trans (hrest.mono fun l => Or.imp_right .inr)
      exact Or.imp hrest.keeps.locate .inl

end Step

/-! ### Steps that fail -/

/-- On another disk every file but the lock file is as it was, whether it is told by its location
or by a path, and so are the projects of a store. -/
structure KeepsFiles (s : DirectoryStore) (d : Disk) : Prop where
  file : ∀ l, d.locate s.lockPath ≠ .ok l →
    ∀ bytes, d.entry? l = some (.file bytes) ↔ s.disk.entry? l = some (.file bytes)
  stat : ∀ p entry, d.locate p ≠ d.locate s.lockPath →
    s.disk.stat p = .ok entry → d.stat p = .ok entry
  project : ∀ name entry, ProjectName.check name = .ok () →
    s.disk.stat (s.projectPath name) = .ok entry → d.stat (s.projectPath name) = .ok entry
  load : ∀ name, s.disk.present (s.projectPath name) →
    ({ s with disk := d } : DirectoryStore).load name = s.load name

/-- A project is not in the lock file. -/
theorem locate_projectPath_ne_lockPath {d : Disk} (hname : ProjectName.check name = .ok ())
    (hl : d.locate (s.projectPath name) = .ok l) : d.locate s.lockPath ≠ .ok l := by
  intro hlock
  have hfile := getLast?_of_locate_push (isName_fileOf (ProjectName.not_mem_of_check hname).1) hl
  rw [getLast?_of_locate_push isName_lockName hlock] at hfile
  exact fileOf_ne_lockName (ProjectName.ne_empty_of_check hname) (Option.some.inj hfile).symm

theorem keepsFiles_of_sameFiles {d : Disk}
    (h : s.disk.SameFiles (fun l => d.locate s.lockPath = .ok l) d) : KeepsFiles s d := by
  have hproject (name : String) (entry : Entry) (hname : ProjectName.check name = .ok ())
      (hstat : s.disk.stat (s.projectPath name) = .ok entry) :
      d.stat (s.projectPath name) = .ok entry :=
    h.stat hstat fun _ hl => locate_projectPath_ne_lockPath hname hl
  refine ⟨h.file, fun p entry hp hstat => ?_, hproject, fun name hpresent => ?_⟩
  · exact h.stat hstat fun l hl hlock => hp (hl.trans hlock.symm)
  · obtain ⟨entry, hentry⟩ := exists_stat_of_present hpresent
    exact load_congr rfl fun hname => (hproject name entry hname hentry).trans hentry.symm

/-- Whatever is wrong, a step that fails leaves every project and every snapshot file as it was. -/
theorem keepsFiles_of_run_error {step : Step} {e : Failure} (h : (step.run s).1 = .error e) :
    KeepsFiles s (step.run s).2 := by
  refine keepsFiles_of_sameFiles ((step.guarded s).mono fun l hl => hl.resolve_right ?_)
  rintro ⟨hok, -⟩
  rw [h] at hok
  cases hok

/-- A store in which a directory stands in the place of one project, beside another project. -/
def obstructed : DirectoryStore :=
  ⟨⟨"store"⟩, [], [(["store"], .directory), (["store", "trips.json"], .directory),
    (["store", "roads.json"], .file "\x7b".toUTF8.toList)]⟩

theorem keepsFiles_of_obstructed :
    ((Step.delete "trips").run obstructed).1 =
        .error (.store (.access "Is a directory (os error 21)")) ∧
      KeepsFiles obstructed ((Step.delete "trips").run obstructed).2 := by
  have h : ((Step.delete "trips").run obstructed).1 =
      .error (.store (.access "Is a directory (os error 21)")) := by decide
  exact ⟨h, keepsFiles_of_run_error h⟩

end Projects

end Blueprint
