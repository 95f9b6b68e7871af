import Blueprint.Proofs.Output.Write

/-!
# Writing what was planned

Planning on files in memory fails only where a path does not resolve. `Settled` says that every
place already holds a text with the digest of the last file generated for it. A write brings this
about, whichever files it passes over, and then everything is planned as unchanged. `Hashed` says
that equal digests meant equal texts wherever planning compared them. The last section says when
the last file for a place is the one that stays there.
-/

namespace Blueprint

theorem Change.ofExisting_eq_unchanged_iff {content : String} {existing : Option String} :
    Change.ofExisting content existing = .unchanged ↔
      ∃ old, existing = some old ∧ contentHash old = contentHash content := by
  cases existing with
  | none => simp [ofExisting]
  | some old =>
      rw [ofExisting]
      split_ifs with h <;> simp [h]

namespace Plan

/-- Texts with the digest of the file planned at their place are that file's content. -/
def Hashed (fs : MemoryFiles) (root : Path) (files : List SourceFile) : Prop :=
  ∀ f ∈ files, ∀ target old, Output.resolve root f.path = .ok target → fs.get? target = some old →
    contentHash old = contentHash f.content → old = f.content

/-- Every place holds a text with the digest of the last file for it. -/
def Settled (fs : MemoryFiles) (root : Path) (files : List SourceFile) : Prop :=
  ∀ path last target, lastSource? files path = some last →
    Output.resolve root path = .ok target →
      ∃ now, fs.get? target = some now ∧ contentHash now = contentHash last.content

variable {fs : MemoryFiles} {root : Path} {files : List SourceFile} {plan : Plan}

theorem current_memory (fs : MemoryFiles) (target : Path) :
    current fs target = .ok (fs.get? target) := by
  cases h : fs.get? target <;> simp [current, FileSystem.present, FileSystem.read, h, Except.map,
    Except.mapError]

theorem planFile_memory (fs : MemoryFiles) (root : Path) (f : SourceFile) :
    planFile fs root f = (Output.resolve root f.path).map fun target =>
      ⟨f, target, .ofExisting f.content (fs.get? target), fs.get? target⟩ := by
  rw [planFile]
  cases Output.resolve root f.path with
  | error e => rfl
  | ok target =>
      rw [ok_bind, current_memory]
      rfl

theorem exists_make_memory
    (h : ∀ f ∈ files, ∃ target, Output.resolve root f.path = .ok target) :
    ∃ plan, make fs root files = .ok plan := by
  refine exists_make fun f hf => ?_
  obtain ⟨target, ht⟩ := h f hf
  rw [planFile_memory, ht]
  exact ⟨_, rfl⟩

theorem resolve_of_make_eq_error {e : Failure} (h : make fs root files = .error e) :
    ∃ f ∈ files, Output.resolve root f.path = .error e := by
  obtain ⟨f, hf, he⟩ := exists_mem_of_make_eq_error h
  rw [planFile_memory] at he
  cases hresolve : Output.resolve root f.path with
  | error e' =>
      rw [hresolve] at he
      cases he
      exact ⟨f, hf, hresolve⟩
  | ok target =>
      rw [hresolve] at he
      cases he

section Planned

variable (h : make fs root files = .ok plan) {g : PlannedFile} (hg : g ∈ plan.files)
include h hg

theorem change_eq_unchanged_iff : g.change = .unchanged ↔
    ∃ old, fs.get? g.target = some old ∧ contentHash old = contentHash g.file.content := by
  obtain ⟨_, hplan⟩ := (mem_files_iff_of_make h).mp hg
  obtain ⟨_, _, hcurrent, hchange⟩ := planFile_eq_ok_iff.mp hplan
  rw [current_memory] at hcurrent
  rw [hchange, Change.ofExisting_eq_unchanged_iff, Except.ok.inj hcurrent]

theorem change_eq_unchanged_of_settled (hs : Settled fs root files) : g.change = .unchanged := by
  obtain ⟨hlast, _⟩ := (mem_files_iff_of_make h).mp hg
  exact (change_eq_unchanged_iff h hg).mpr (hs _ _ _ hlast (resolve_of_mem h hg))

variable (skipUnchanged details : Bool) (hfiles : Unambiguous files)
include hfiles

theorem get?_write_target : (plan.write skipUnchanged details fs).files.get? g.target =
    if passesOver skipUnchanged g then fs.get? g.target else some g.file.content :=
  get?_deeds_of_mem ((distinct_iff_unambiguous h).mpr hfiles) hg (Path.same_iff.mpr rfl)

/-- What stands at a target after a write has the right digest, and a text of before is left there
only when the file was passed over for it. -/
theorem exists_get?_write : ∃ now,
    (plan.write skipUnchanged details fs).files.get? g.target = some now ∧
      contentHash now = contentHash g.file.content ∧
      (fs.get? g.target = some now ∨ now = g.file.content) := by
  rw [get?_write_target h hg skipUnchanged details hfiles]
  by_cases hpass : passesOver skipUnchanged g
  · rw [if_pos hpass]
    obtain ⟨old, hold, hhash⟩ := (change_eq_unchanged_iff h hg).mp (unchanged_of_passesOver hpass)
    exact ⟨old, hold, hhash, .inl hold⟩
  · rw [if_neg hpass]
    exact ⟨_, rfl, rfl, .inr rfl⟩

end Planned

section Write

variable (h : make fs root files = .ok plan) (hfiles : Unambiguous files)
  (skipUnchanged details : Bool)
include h

theorem get?_write_of_not_same {p : Path}
    (hp : ∀ f ∈ files, ∀ target, Output.resolve root f.path = .ok target → ¬ p.same target) :
    (plan.write skipUnchanged details fs).files.get? p = fs.get? p :=
  get?_deeds_of_not_same fun _ hg =>
    hp _ (file_mem_of_mem h hg) _ (resolve_of_mem h hg)

include hfiles

theorem settled_write : Settled (plan.write skipUnchanged details fs).files root files := by
  intro path last target hlast htarget
  obtain ⟨g, hg, rfl, rfl⟩ := exists_planned_of_last h hlast htarget
  obtain ⟨now, hnow, hhash, _⟩ := exists_get?_write h hg skipUnchanged details hfiles
  exact ⟨now, hnow, hhash⟩

theorem get?_write_of_hashed (hhashed : Hashed fs root files) {path : String} {last : SourceFile}
    {target : Path} (hlast : lastSource? files path = some last)
    (htarget : Output.resolve root path = .ok target) :
    (plan.write skipUnchanged details fs).files.get? target = some last.content := by
  obtain ⟨g, hg, rfl, rfl⟩ := exists_planned_of_last h hlast htarget
  obtain ⟨now, hnow, hhash, hold | rfl⟩ := exists_get?_write h hg skipUnchanged details hfiles
  · rw [hnow, hhashed _ (file_mem_of_mem h hg) _ _ (resolve_of_mem h hg) hold hhash]
  · exact hnow

end Write

/-! ### Spellings -/

/-- Merging by text does what merging by place would do exactly where no place is spelled twice.
Then every run on files in memory leaves the last file for a place there. -/
theorem distinct_and_last_iff_unambiguous {σ : Type} [FileSystem σ] {fs : σ} {root : Path}
    {files : List SourceFile} {plan : Plan} (h : make fs root files = .ok plan) :
    (plan.Distinct ↔ Unambiguous files) ∧
      ((∀ g ∈ plan.files, lastAt? root files g.target = some g.file) ↔ Unambiguous files) ∧
      (Unambiguous files → ∀ (m : MemoryFiles) (skipUnchanged details : Bool),
        Hashed m root files → ∀ g ∈ plan.files, ∃ again, make m root files = .ok again ∧
          (again.write skipUnchanged details m).files.get? g.target = some g.file.content) := by
  refine ⟨distinct_iff_unambiguous h, last_iff_unambiguous h, ?_⟩
  intro hfiles m skipUnchanged details hhashed g hg
  have hresolve : ∀ f ∈ files, ∃ target, Output.resolve root f.path = .ok target :=
    fun f hf => exists_resolve_of_make h hf
  obtain ⟨again, hagain⟩ : ∃ again, make m root files = .ok again := exists_make_memory hresolve
  obtain ⟨hlast, _⟩ := (mem_files_iff_of_make h).mp hg
  exact ⟨again, hagain,
    get?_write_of_hashed hagain hfiles skipUnchanged details hhashed hlast (resolve_of_mem h hg)⟩

/-- Two entities of one name. -/
def repeated : List SourceFile :=
  [⟨"/Domain/Entities/Ride.cs", "first"⟩, ⟨"/Domain/Entities/Ride.cs", "second"⟩]

/-- One place under two spellings, as from the names `Ride` and `./Ride`. -/
def respelled : List SourceFile :=
  [⟨"/Domain/Entities/Ride.cs", "first"⟩, ⟨"/Domain/Entities/./Ride.cs", "second"⟩]

def rides (files : List SourceFile) (existing : Option String) : Plan :=
  ⟨⟨"out"⟩, files.map fun f => ⟨f, ⟨"out/Domain/Entities/Ride.cs"⟩,
    .ofExisting f.content existing, existing⟩⟩

theorem distinct_of_repeated :
    make MemoryFiles.empty ⟨"out"⟩ repeated = .ok (rides (repeated.drop 1) none) ∧
      (rides (repeated.drop 1) none).Distinct ∧
      (∀ g ∈ (rides (repeated.drop 1) none).files,
        lastAt? ⟨"out"⟩ repeated g.target = some g.file) ∧
      ∃ again, make MemoryFiles.empty ⟨"out"⟩ repeated = .ok again ∧
        (again.write true false MemoryFiles.empty).files.get? ⟨"out/Domain/Entities/Ride.cs"⟩ =
          some "second" := by
  have hmake : make MemoryFiles.empty ⟨"out"⟩ repeated = .ok (rides (repeated.drop 1) none) := by
    decide
  have hfiles : Unambiguous repeated := by decide
  have hhashed : Hashed MemoryFiles.empty ⟨"out"⟩ repeated := by
    intro f _ target old _ hold
    cases hold
  obtain ⟨hdistinct, hlast, hdisk⟩ := distinct_and_last_iff_unambiguous hmake
  let ride : PlannedFile := ⟨⟨"/Domain/Entities/Ride.cs", "second"⟩,
    ⟨"out/Domain/Entities/Ride.cs"⟩, .new, none⟩
  have hride : ride ∈ (rides (repeated.drop 1) none).files := List.mem_cons_self
  have hwritten := hdisk hfiles MemoryFiles.empty true false hhashed ride hride
  exact ⟨hmake, hdistinct.mpr hfiles, hlast.mpr hfiles, hwritten⟩

/-- Both spellings are planned. A second run passes over the last file, which is on disk, and
writes the first one over it. -/
theorem not_distinct_of_respelled :
    let fs := ((rides respelled none).write true false MemoryFiles.empty).files
    make MemoryFiles.empty ⟨"out"⟩ respelled = .ok (rides respelled none) ∧
      ¬ (rides respelled none).Distinct ∧
      make fs ⟨"out"⟩ respelled = .ok (rides respelled (some "second")) ∧
      ((rides respelled (some "second")).write true false fs).files.get?
        ⟨"out/Domain/Entities/Ride.cs"⟩ = some "first" := by
  decide +kernel

end Plan

end Blueprint
