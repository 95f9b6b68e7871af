import Blueprint.Output.Write
import Blueprint.Proofs.Output.MemoryFiles
import Blueprint.Proofs.Output.Targets

/-!
# What a write leaves

Files in memory never refuse a write. A plan leaves everything alone that is not one of its
targets. Where the targets are different places, each holds the planned content afterwards, or what
stood there when the file was passed over.
-/

namespace Blueprint.Plan

/-- Whether a write passes over a file. -/
def passesOver (skipUnchanged : Bool) (f : PlannedFile) : Bool :=
  skipUnchanged && f.change == .unchanged

theorem passesOver_of_unchanged {f : PlannedFile} (h : f.change = .unchanged) :
    passesOver true f := by simp [passesOver, h]

theorem unchanged_of_passesOver {skipUnchanged : Bool} {f : PlannedFile}
    (h : passesOver skipUnchanged f) : f.change = .unchanged := by
  rw [passesOver, Bool.and_eq_true, beq_iff_eq] at h
  exact h.2

/-! ### Results -/

theorem resultOf_unchanged (paths : List String) :
    resultOf (paths.map fun p => (p, .unchanged)) = ⟨[], paths, []⟩ := by
  induction paths with
  | nil => rfl
  | cons p paths ih =>
      rw [List.map_cons, resultOf, List.foldr_cons, ← resultOf, ih]
      rfl

theorem errors_resultOf {ds : List (String × Deed)} (h : ∀ d ∈ ds, ∀ e, d.2 ≠ .failed e) :
    (resultOf ds).errors = [] := by
  induction ds with
  | nil => rfl
  | cons d ds ih =>
      have ih := ih fun d hd => h d (by simp [hd])
      obtain ⟨p, deed⟩ := d
      rw [resultOf, List.foldr_cons, ← resultOf]
      cases deed with
      | written => exact ih
      | unchanged => exact ih
      | failed e => exact absurd rfl (h (p, .failed e) (by simp) e)

theorem deeds_cons {σ : Type} [FileSystem σ] (skipUnchanged : Bool) (fs : σ) (f : PlannedFile)
    (files : List PlannedFile) : deeds skipUnchanged fs (f :: files) =
      ((f.path, (writeFile fs skipUnchanged f).1) ::
          (deeds skipUnchanged (writeFile fs skipUnchanged f).2 files).1,
        (deeds skipUnchanged (writeFile fs skipUnchanged f).2 files).2) := rfl

/-! ### Passing over every file -/

section Idle

variable {σ : Type} [FileSystem σ] {files : List PlannedFile}
  (h : ∀ f ∈ files, f.change = .unchanged)
include h

theorem deeds_of_unchanged (fs : σ) :
    deeds true fs files = (files.map fun f => (f.path, .unchanged), fs) := by
  induction files with
  | nil => rfl
  | cons f files ih =>
      have hf : writeFile fs true f = (.unchanged, fs) :=
        if_pos (passesOver_of_unchanged (h f (by simp)))
      rw [deeds_cons, hf, ih fun g hg => h g (by simp [hg]), List.map_cons]

theorem write_of_unchanged (root : Path) (details : Bool) (fs : σ) :
    ((Plan.mk root files).write true details fs).result =
        ⟨[], files.map PlannedFile.path, []⟩ ∧
      ((Plan.mk root files).write true details fs).files = fs := by
  simp only [write, deeds_of_unchanged h, and_true]
  rw [← resultOf_unchanged, List.map_map]
  rfl

end Idle

/-! ### Files in memory -/

section Memory

variable {skipUnchanged : Bool} {fs : MemoryFiles} {p : Path} {f : PlannedFile}
  {files : List PlannedFile}

theorem writeFile_memory (skipUnchanged : Bool) (fs : MemoryFiles) (f : PlannedFile) :
    writeFile fs skipUnchanged f =
      if passesOver skipUnchanged f then (.unchanged, fs)
      else (.written, fs.insert f.target f.file.content) := rfl

theorem get?_writeFile_of_not_same (h : ¬ p.same f.target) :
    (writeFile fs skipUnchanged f).2.get? p = fs.get? p := by
  rw [writeFile_memory]
  split_ifs
  · rfl
  · exact fs.get?_insert_of_not_same f.file.content h

theorem get?_writeFile_of_same (h : p.same f.target) :
    (writeFile fs skipUnchanged f).2.get? p =
      if passesOver skipUnchanged f then fs.get? p else some f.file.content := by
  rw [writeFile_memory]
  split_ifs
  · rfl
  · exact fs.get?_insert_of_same f.file.content h

theorem get?_deeds_of_not_same (h : ∀ f ∈ files, ¬ p.same f.target) :
    (deeds skipUnchanged fs files).2.get? p = fs.get? p := by
  induction files generalizing fs with
  | nil => rfl
  | cons f files ih =>
      rw [deeds_cons, ih fun g hg => h g (by simp [hg])]
      exact get?_writeFile_of_not_same (h f (by simp))

theorem get?_deeds_of_mem (hdistinct : files.Pairwise fun f g => ¬ f.target.same g.target)
    (hf : f ∈ files) (hp : p.same f.target) :
    (deeds skipUnchanged fs files).2.get? p =
      if passesOver skipUnchanged f then fs.get? p else some f.file.content := by
  induction files generalizing fs with
  | nil => cases hf
  | cons g files ih =>
      rw [List.pairwise_cons] at hdistinct
      rw [deeds_cons]
      rcases List.mem_cons.mp hf with rfl | hf
      · -- The later writes stay away from the place of the first.
        have hrest : ∀ g ∈ files, ¬ p.same g.target := by
          intro g hg hsame
          rw [Path.same_iff] at hp hsame
          exact hdistinct.1 g hg (Path.same_iff.mpr (hp.symm.trans hsame))
        rw [get?_deeds_of_not_same hrest]
        exact get?_writeFile_of_same hp
      · have hg : ¬ p.same g.target := by
          intro hsame
          rw [Path.same_iff] at hp hsame
          exact hdistinct.1 f hf (Path.same_iff.mpr (hsame.symm.trans hp))
        rw [ih hdistinct.2 hf, get?_writeFile_of_not_same hg]

theorem not_failed_of_mem_deeds {d : String × Deed}
    (hd : d ∈ (deeds skipUnchanged fs files).1) (e : FileFailure) : d.2 ≠ .failed e := by
  induction files generalizing fs with
  | nil => cases hd
  | cons f files ih =>
      rw [deeds_cons] at hd
      rcases List.mem_cons.mp hd with rfl | hd
      · change (writeFile fs skipUnchanged f).1 ≠ .failed e
        rw [writeFile_memory]
        split_ifs <;> simp
      · exact ih hd

end Memory

theorem errors_write (plan : Plan) (skipUnchanged details : Bool) (fs : MemoryFiles) :
    (plan.write skipUnchanged details fs).result.errors = [] :=
  errors_resultOf fun _ hd => not_failed_of_mem_deeds hd

end Blueprint.Plan
