import Blueprint.Graph.Starter
import Blueprint.Proofs.Disk.Frame
import Blueprint.Proofs.Store.Directory

/-!
# What is saved can be loaded

A saved project stands in its file as a snapshot. Loading refuses snapshots without a name and
saving does not, so exactly the graphs with a name come back.
-/

namespace Blueprint.DirectoryStore

open Disk

variable {s s' : DirectoryStore} {name : String} {g : Graph}

/-- The path of the lock file. -/
def lockPath (s : DirectoryStore) : Path := s.dir.push lockName

/-- Either the store cannot be locked and no file changes, or the operation is done on the disk with
the directory and the lock file. -/
theorem locked_cases (s : DirectoryStore) (op : Operation) :
    ((s.locked op).1 ≠ .ok () ∧ s.disk.SameFiles (fun _ => False) (s.locked op).2.disk) ∨
      ∃ d, s.disk.SameFiles (fun l => d.locate s.lockPath = .ok l) d ∧
        s.locked op = ((op d).1, { s with disk := (op d).2 }) := by
  have hmade := sameFiles_makeDirectories s.disk s.dir
  rw [locked]
  generalize s.disk.makeDirectories s.dir = made at hmade ⊢
  obtain ⟨r₁, d₁⟩ := made
  cases r₁ with
  | error e => exact .inl ⟨by simp [access, Except.mapError], hmade⟩
  | ok _ =>
      have hlock := (atomic_replace d₁ s.lockPath []).after hmade
      simp only [access, Except.mapError, lockPath] at hlock ⊢
      generalize d₁.replace (s.dir.push lockName) [] = lock at hlock ⊢
      obtain ⟨r₂, d₂⟩ := lock
      cases r₂ with
      | error e => exact .inl ⟨by simp, hlock.mono fun l hl => by cases hl.1⟩
      | ok _ => exact .inr ⟨d₂, hlock.mono fun l hl => hl.2, rfl⟩

theorem locked_eq_ok {op : Operation} (h : s.locked op = (.ok (), s')) :
    s'.dir = s.dir ∧ ∃ d, op d = (.ok (), s'.disk) := by
  obtain ⟨hfails, -⟩ | ⟨d, -, hop⟩ := locked_cases s op
  · exact absurd (congrArg Prod.fst h) hfails
  · rw [hop] at h
    obtain ⟨hr, rfl⟩ := Prod.mk.inj h
    exact ⟨rfl, d, Prod.ext hr rfl⟩

/-- A saved project stands in its file. -/
theorem stat_of_save (h : s.save name g = (.ok (), s')) :
    ProjectName.check name = .ok () ∧
      s'.disk.stat (s'.projectPath name) = .ok (.file (Snapshot.write g).toUTF8.toList) := by
  rw [save] at h
  cases hname : ProjectName.check name with
  | error e => simp [hname] at h
  | ok _ =>
      rw [hname] at h
      obtain ⟨hdir, d, hop⟩ := locked_eq_ok h
      generalize hwrite : d.writeText (s.projectPath name) (Snapshot.write g) = written at hop
      obtain ⟨r, d'⟩ := written
      obtain ⟨hr, rfl⟩ := Prod.mk.inj hop
      cases r with
      | error e => simp [Except.mapError] at hr
      | ok _ =>
          refine ⟨rfl, ?_⟩
          rw [projectPath, hdir]
          exact stat_writeText hwrite

/-- A saved graph comes back as it was when it has a name, and else its project is corrupted. -/
theorem load_save (h : s.save name g = (.ok (), s')) : s'.load name =
    if g.heading.name = "" then .error (.corrupted name Failure.unnamedSnapshot.message)
    else .ok (some g) := by
  obtain ⟨hname, hstat⟩ := stat_of_save h
  exact load_of_stat hname hstat

/-- A store in a directory that is there. -/
def prepared : DirectoryStore := ⟨⟨"store"⟩, [], [(["store"], .directory)]⟩

theorem prepared_ready : prepared.Ready ["store"] where
  opens := ⟨by decide, by decide⟩
  lock := by decide

theorem prepared_save (g : Graph) : prepared.save "trips" g =
    (.ok (), { prepared with disk := prepared.savedDisk ["store"] "trips" g }) :=
  prepared_ready.save_eq (by decide) (by decide) (by decide) g

theorem load_save_of_named : ({ prepared with
    disk := prepared.savedDisk ["store"] "trips" Graph.starter } : DirectoryStore).load "trips" =
      .ok (some Graph.starter) :=
  (load_save (prepared_save Graph.starter)).trans (if_neg (by decide))

/-- A graph without a name is saved and does not come back. -/
theorem not_load_of_nameless : ¬ ∀ (s s' : DirectoryStore) (name : String) (g : Graph),
    s.save name g = (.ok (), s') → s'.load name = .ok (some g) := by
  intro h
  have hsave := prepared_save (Graph.empty "")
  obtain ⟨hname, hstat⟩ := stat_of_save hsave
  have hload := load_of_stat hname hstat
  rw [h _ _ _ _ hsave, if_pos (by decide)] at hload
  cases hload

end Blueprint.DirectoryStore
