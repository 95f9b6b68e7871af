import Blueprint.Proofs.Output.Settled
import Mathlib.Data.List.Induction

/-!
# What planning answers

A list is planned exactly when each of its files can be planned on its own, also one that a later
file replaces. Planning goes through the list and keeps a plan of the files so far; one more file
takes the place of its path, or the last place when the path is new. So the paths of the plan are
those of the list in the order of their first occurrences. `Tells` says what a plan tells about one
of its files, and a list has one plan at most that tells the truth.
-/

namespace Blueprint

theorem Change.ofExisting_eq_new_iff {content : String} {existing : Option String} :
    Change.ofExisting content existing = .new ↔ existing = none := by
  cases existing with
  | none => simp [ofExisting]
  | some old =>
      rw [ofExisting]
      split_ifs <;> simp

theorem Change.ofExisting_eq_modified_iff {content : String} {existing : Option String} :
    Change.ofExisting content existing = .modified ↔
      ∃ old, existing = some old ∧ contentHash old ≠ contentHash content := by
  cases existing with
  | none => simp [ofExisting]
  | some old =>
      rw [ofExisting]
      split_ifs with h <;> simp [h]

namespace Plan

variable {σ : Type} [FileSystem σ]

/-- The path of a file resolves below a root, and what is there can be read. -/
def Plannable (fs : σ) (root : Path) (f : SourceFile) : Prop :=
  ∃ target, Output.resolve root f.path = .ok target ∧
    (FileSystem.present fs target → ∃ old, FileSystem.read fs target = .ok old)

/-- What a plan tells about one of its files. -/
structure Tells (fs : σ) (root : Path) (files : List SourceFile) (g : PlannedFile) : Prop where
  last : lastSource? files g.path = some g.file
  target : Output.resolve root g.path = .ok g.target
  existing : ∀ old, g.existing = some old ↔
    FileSystem.present fs g.target ∧ FileSystem.read fs g.target = .ok old
  new : g.change = .new ↔ ¬ FileSystem.present fs g.target
  unchanged : g.change = .unchanged ↔
    ∃ old, g.existing = some old ∧ contentHash old = contentHash g.file.content
  modified : g.change = .modified ↔
    ∃ old, g.existing = some old ∧ contentHash old ≠ contentHash g.file.content

variable {fs : σ} {root target : Path} {files : List SourceFile} {f : SourceFile} {plan : Plan}
  {existing : Option String} {g g' : PlannedFile}

/-! ### One file -/

theorem current_eq_ok_iff : current fs target = .ok existing ↔
    (¬ FileSystem.present fs target ∧ existing = none) ∨
      (FileSystem.present fs target ∧
        ∃ old, FileSystem.read fs target = .ok old ∧ existing = some old) := by
  rw [current]
  split_ifs with hpresent
  · cases FileSystem.read fs target <;> simp [Except.map, Except.mapError, hpresent, eq_comm]
  · simp [hpresent, eq_comm]

theorem plannable_iff : Plannable fs root f ↔ ∃ g, planFile fs root f = .ok g := by
  constructor
  · rintro ⟨target, htarget, hread⟩
    obtain ⟨existing, hexisting⟩ : ∃ existing, current fs target = .ok existing := by
      by_cases hpresent : FileSystem.present fs target
      · obtain ⟨old, hold⟩ := hread hpresent
        exact ⟨some old, current_eq_ok_iff.mpr (.inr ⟨hpresent, old, hold, rfl⟩)⟩
      · exact ⟨none, current_eq_ok_iff.mpr (.inl ⟨hpresent, rfl⟩)⟩
    exact ⟨⟨f, target, .ofExisting f.content existing, existing⟩,
      planFile_eq_ok_iff.mpr ⟨rfl, htarget, hexisting, rfl⟩⟩
  · rintro ⟨g, hg⟩
    obtain ⟨rfl, htarget, hexisting, -⟩ := planFile_eq_ok_iff.mp hg
    refine ⟨g.target, htarget, fun hpresent => ?_⟩
    obtain ⟨habsent, -⟩ | ⟨-, old, hold, -⟩ := current_eq_ok_iff.mp hexisting
    · exact absurd hpresent habsent
    · exact ⟨old, hold⟩

theorem tells_of_planFile (hlast : lastSource? files g.path = some g.file)
    (hg : planFile fs root g.file = .ok g) : Tells fs root files g := by
  obtain ⟨-, htarget, hexisting, hchange⟩ := planFile_eq_ok_iff.mp hg
  have hcurrent := current_eq_ok_iff.mp hexisting
  refine ⟨hlast, htarget, fun old => ?_, ?_, ?_, ?_⟩
  · obtain ⟨habsent, hnone⟩ | ⟨hpresent, old', hold, hsome⟩ := hcurrent
    · simp [habsent, hnone]
    · simp [hpresent, hold, hsome]
  · rw [hchange, Change.ofExisting_eq_new_iff]
    obtain ⟨habsent, hnone⟩ | ⟨hpresent, old', hold, hsome⟩ := hcurrent
    · simp [habsent, hnone]
    · simp [hpresent, hsome]
  · rw [hchange, Change.ofExisting_eq_unchanged_iff]
  · rw [hchange, Change.ofExisting_eq_modified_iff]

/-- What is told about a path leaves nothing open. -/
theorem Tells.eq (h : Tells fs root files g) (h' : Tells fs root files g')
    (hpath : g.path = g'.path) : g = g' := by
  have hfile : g.file = g'.file := by
    have hlast := h.last
    rw [hpath, h'.last] at hlast
    exact (Option.some.inj hlast).symm
  have htarget : g.target = g'.target := by
    have hresolve := h.target
    rw [hpath, h'.target] at hresolve
    exact (Except.ok.inj hresolve).symm
  have hexisting : g.existing = g'.existing := by
    refine Option.ext fun old => ?_
    rw [h.existing, h'.existing, htarget]
  have hnew : g.change = .new ↔ g'.change = .new := by rw [h.new, h'.new, htarget]
  have hunchanged : g.change = .unchanged ↔ g'.change = .unchanged := by
    rw [h.unchanged, h'.unchanged, hexisting, hfile]
  have hchange : g.change = g'.change := by
    cases hg : g.change <;> cases hg' : g'.change <;> simp_all
  cases g
  cases g'
  simp_all

theorem eq_of_tells {gs gs' : List PlannedFile}
    (hpaths : gs.map PlannedFile.path = gs'.map PlannedFile.path)
    (h : ∀ g ∈ gs, Tells fs root files g) (h' : ∀ g ∈ gs', Tells fs root files g) : gs = gs' := by
  induction gs generalizing gs' with
  | nil => exact (List.map_eq_nil_iff.mp hpaths.symm).symm
  | cons g gs ih =>
      cases gs' with
      | nil => cases hpaths
      | cons g' gs' =>
          obtain ⟨hhead, htail⟩ := List.cons.inj hpaths
          rw [List.forall_mem_cons] at h h'
          rw [h.1.eq h'.1 hhead, ih htail h.2 h'.2]

/-! ### Going through the list -/

/-- One more file is put into the plan of those before it. -/
theorem make_concat_eq_ok_iff : make fs root (files ++ [f]) = .ok plan ↔
    ∃ before g, make fs root files = .ok before ∧ planFile fs root f = .ok g ∧
      plan = ⟨root, place g before.files⟩ := by
  have hlast : [f].mapM (planFile fs root) = (planFile fs root f).map fun g => [g] := by
    cases hf : planFile fs root f <;> simp [hf, Except.map, pure, Except.pure]
  simp only [make_eq_ok_iff, List.mapM_append, hlast, bind_eq_ok_iff]
  constructor
  · rintro ⟨planned, ⟨gs, hgs, one, hone, happend⟩, rfl⟩
    cases hf : planFile fs root f with
    | error e => simp [hf, Except.map] at hone
    | ok g =>
        simp only [hf, Except.map, Except.ok.injEq] at hone
        subst hone
        cases happend
        exact ⟨⟨root, gs.foldl (fun fs f => place f fs) []⟩, g, ⟨gs, hgs, rfl⟩, rfl, by simp⟩
  · rintro ⟨-, g, ⟨gs, hgs, rfl⟩, hf, rfl⟩
    exact ⟨gs ++ [g], ⟨gs, hgs, [g], by simp [hf, Except.map], rfl⟩, by simp⟩

theorem map_path_of_make (h : make fs root files = .ok plan) :
    plan.files.map PlannedFile.path = (files.map SourceFile.path).eraseDups := by
  induction files using List.reverseRecOn generalizing plan with
  | nil =>
      obtain ⟨planned, hplanned, rfl⟩ := make_eq_ok_iff.mp h
      cases hplanned
      rfl
  | append_singleton files f ih =>
      obtain ⟨before, g, hbefore, hg, rfl⟩ := make_concat_eq_ok_iff.mp h
      have hpath : g.path = f.path := by rw [PlannedFile.path, (planFile_eq_ok_iff.mp hg).1]
      rw [map_path_place, ih hbefore, hpath, List.map_append, List.map_singleton,
        Keyed.eraseDups_concat]
      simp only [List.mem_eraseDups]

theorem tells_of_make (h : make fs root files = .ok plan) (hg : g ∈ plan.files) :
    Tells fs root files g := by
  obtain ⟨hlast, hplan⟩ := (mem_files_iff_of_make h).mp hg
  exact tells_of_planFile hlast hplan

theorem exists_make_iff :
    (∃ plan, make fs root files = .ok plan) ↔ ∀ f ∈ files, Plannable fs root f := by
  constructor
  · rintro ⟨plan, hplan⟩ f hf
    obtain ⟨planned, hplanned, -⟩ := make_eq_ok_iff.mp hplan
    exact plannable_iff.mpr (exists_of_mapM_eq_ok hplanned hf)
  · intro h
    exact exists_make fun f hf => plannable_iff.mp (h f hf)

/-- Planning succeeds exactly when every file of the list can be planned, and its answer is the
plan with each path once, in the order of first occurrences, that tells the truth about all of its
files. -/
theorem make_eq_ok_iff_tells (fs : σ) (root : Path) (files : List SourceFile) :
    ((∃ plan, make fs root files = .ok plan) ↔ ∀ f ∈ files, Plannable fs root f) ∧
      ∀ plan, make fs root files = .ok plan ↔
        (∀ f ∈ files, Plannable fs root f) ∧ plan.root = root ∧
          plan.files.map PlannedFile.path = (files.map SourceFile.path).eraseDups ∧
          ∀ g ∈ plan.files, Tells fs root files g := by
  refine ⟨exists_make_iff, fun plan => ⟨fun h => ?_, ?_⟩⟩
  · obtain ⟨planned, -, hroot⟩ := make_eq_ok_iff.mp h
    exact ⟨exists_make_iff.mp ⟨plan, h⟩, by rw [hroot], map_path_of_make h,
      fun g hg => tells_of_make h hg⟩
  · rintro ⟨hplannable, hroot, hpaths, htells⟩
    obtain ⟨made, hmade⟩ := exists_make_iff.mpr hplannable
    have hfiles : plan.files = made.files :=
      eq_of_tells (hpaths.trans (map_path_of_make hmade).symm) htells
        fun g hg => tells_of_make hmade hg
    have hmadeRoot : made.root = root := by
      obtain ⟨planned, -, hmadeRoot⟩ := make_eq_ok_iff.mp hmade
      rw [hmadeRoot]
    rw [hmade, Except.ok.injEq, Plan.mk.injEq]
    exact ⟨hmadeRoot.trans hroot.symm, hfiles.symm⟩

/-- The ride is planned where it comes first, as it comes last, and that is what is there. -/
example :
    make (MemoryFiles.ofList [(⟨"out/Domain/Entities/Ride.cs"⟩, "second")]) ⟨"out"⟩
        [⟨"/Domain/Entities/Ride.cs", "first"⟩, ⟨"/Domain/ValueObjects/Money.cs", "money"⟩,
          ⟨"/Domain/Entities/Ride.cs", "second"⟩] =
      .ok ⟨⟨"out"⟩, [
        ⟨⟨"/Domain/Entities/Ride.cs", "second"⟩, ⟨"out/Domain/Entities/Ride.cs"⟩, .unchanged,
          some "second"⟩,
        ⟨⟨"/Domain/ValueObjects/Money.cs", "money"⟩, ⟨"out/Domain/ValueObjects/Money.cs"⟩, .new,
          none⟩]⟩ := by decide +kernel

end Plan

end Blueprint
