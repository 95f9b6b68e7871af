import Blueprint.Output.Plan
import Blueprint.Proofs.Except
import Blueprint.Proofs.Keyed
import Blueprint.Proofs.Output.Resolve
import Mathlib.Data.List.Pairwise

/-!
# What stands in a plan

A plan holds one file for each path text that was generated, the last one with it, planned on its
own. Its targets are pairwise different places exactly when no two generated paths have the same
named components under different spellings.
-/

namespace Blueprint

/-- The last of the files with a path. -/
def lastSource? (files : List SourceFile) (path : String) : Option SourceFile :=
  files.reverse.find? (·.path == path)

theorem lastSource?_eq_some {files : List SourceFile} {path : String} {f : SourceFile}
    (h : lastSource? files path = some f) : f ∈ files ∧ f.path = path :=
  ⟨List.mem_reverse.mp (List.mem_of_find?_eq_some h), by simpa using List.find?_some h⟩

theorem exists_lastSource? {files : List SourceFile} {f : SourceFile} (hf : f ∈ files) :
    ∃ last, lastSource? files f.path = some last := by
  rw [← Option.isSome_iff_exists, lastSource?, List.find?_isSome]
  exact ⟨f, List.mem_reverse.mpr hf, by simp⟩

namespace Plan

/-! ### Placing files -/

section Place

variable (f : PlannedFile) (fs : List PlannedFile)

theorem find?_place (path : String) : (place f fs).find? (·.path == path) =
    if f.path = path then some f else fs.find? (·.path == path) := by
  induction fs with
  | nil => by_cases h : f.path = path <;> simp [place, h]
  | cons g fs ih =>
      rw [place]
      by_cases hg : g.path = f.path
      · rw [if_pos hg]
        by_cases h : f.path = path <;> simp [hg, h]
      · rw [if_neg hg]
        by_cases h : g.path = path
        · have hf : f.path ≠ path := fun hf => hg (h.trans hf.symm)
          simp [h, hf]
        · simp [h, ih]

theorem map_path_place : (place f fs).map PlannedFile.path =
    if f.path ∈ fs.map PlannedFile.path then fs.map PlannedFile.path
    else fs.map PlannedFile.path ++ [f.path] := by
  induction fs with
  | nil => simp [place]
  | cons g fs ih =>
      rw [place]
      by_cases hg : g.path = f.path
      · simp [hg]
      · simp only [if_neg hg, List.map_cons, List.mem_cons, Ne.symm hg, false_or, ih]
        split_ifs <;> simp

theorem nodup_place (h : (fs.map PlannedFile.path).Nodup) :
    ((place f fs).map PlannedFile.path).Nodup := by
  rw [map_path_place]
  split_ifs with hmem
  · exact h
  · rw [List.nodup_append]
    exact ⟨h, by simp, fun a ha b hb => by
      rw [List.mem_singleton.mp hb]
      exact fun he => hmem (he ▸ ha)⟩

theorem find?_foldl_place (planned : List PlannedFile) (path : String) :
    (planned.foldl (fun fs f => place f fs) fs).find? (·.path == path) =
      (planned.reverse.find? (·.path == path)).or (fs.find? (·.path == path)) := by
  induction planned generalizing fs with
  | nil => rfl
  | cons g planned ih =>
      rw [List.foldl_cons, ih, List.reverse_cons, List.find?_append, find?_place, Option.or_assoc]
      congr 1
      by_cases hg : g.path = path <;> simp [hg]

theorem nodup_foldl_place (planned : List PlannedFile) (h : (fs.map PlannedFile.path).Nodup) :
    ((planned.foldl (fun fs f => place f fs) fs).map PlannedFile.path).Nodup := by
  induction planned generalizing fs with
  | nil => exact h
  | cons g planned ih => exact ih _ (nodup_place g fs h)

end Place

theorem mem_iff_find?_of_nodup {fs : List PlannedFile} (h : (fs.map PlannedFile.path).Nodup)
    {g : PlannedFile} : g ∈ fs ↔ fs.find? (·.path == g.path) = some g := by
  simp [Keyed.find?_eq_some_iff_of_nodup h]

/-! ### Making a plan -/

variable {σ : Type} [FileSystem σ] {fs : σ} {root : Path} {files : List SourceFile} {plan : Plan}

theorem planFile_eq_ok_iff {f : SourceFile} {g : PlannedFile} : planFile fs root f = .ok g ↔
    g.file = f ∧ Output.resolve root f.path = .ok g.target ∧ current fs g.target = .ok g.existing ∧
      g.change = .ofExisting f.content g.existing := by
  rw [planFile, bind_eq_ok_iff]
  constructor
  · rintro ⟨t, ht, h⟩
    obtain ⟨existing, hexisting, h⟩ := bind_eq_ok_iff.mp h
    cases h
    exact ⟨rfl, ht, hexisting, rfl⟩
  · rintro ⟨rfl, ht, hexisting, hchange⟩
    refine ⟨g.target, ht, bind_eq_ok_iff.mpr ⟨g.existing, hexisting, ?_⟩⟩
    rw [← hchange]
    rfl

theorem make_eq_ok_iff : make fs root files = .ok plan ↔
    ∃ planned, files.mapM (planFile fs root) = .ok planned ∧
      plan = ⟨root, planned.foldl (fun fs f => place f fs) []⟩ := by
  rw [make, bind_eq_ok_iff]
  constructor <;> rintro ⟨planned, h, hplan⟩
  · cases hplan
    exact ⟨planned, h, rfl⟩
  · exact ⟨planned, h, by rw [hplan]; rfl⟩

theorem nodup_paths_of_make (h : make fs root files = .ok plan) :
    (plan.files.map PlannedFile.path).Nodup := by
  obtain ⟨planned, _, rfl⟩ := make_eq_ok_iff.mp h
  exact nodup_foldl_place [] planned List.nodup_nil

theorem map_file_of_mapM {planned : List PlannedFile}
    (h : files.mapM (planFile fs root) = .ok planned) : planned.map PlannedFile.file = files := by
  have h := mapM_eq_ok_iff.mp h
  induction h with
  | nil => rfl
  | cons hf _ ih =>
      rw [List.map_cons, (planFile_eq_ok_iff.mp hf).1, ih (mapM_eq_ok_iff.mpr ‹_›)]

/-- The files of a plan are the last ones with their paths, each planned on its own. -/
theorem mem_files_iff_of_make (h : make fs root files = .ok plan) {g : PlannedFile} :
    g ∈ plan.files ↔
      lastSource? files g.path = some g.file ∧ planFile fs root g.file = .ok g := by
  have hnodup := nodup_paths_of_make h
  obtain ⟨planned, hplanned, rfl⟩ := make_eq_ok_iff.mp h
  have hown {f : PlannedFile} (hf : f ∈ planned) : planFile fs root f.file = .ok f := by
    obtain ⟨s, _, hs⟩ := exists_source_of_mapM_eq_ok hplanned hf
    rwa [(planFile_eq_ok_iff.mp hs).1]
  have hlast : lastSource? files g.path =
      (planned.reverse.find? (·.path == g.path)).map PlannedFile.file := by
    rw [← map_file_of_mapM hplanned, lastSource?, ← List.map_reverse, List.find?_map]
    rfl
  rw [mem_iff_find?_of_nodup hnodup, find?_foldl_place, List.find?_nil, Option.or_none, hlast]
  constructor
  · intro hg
    exact ⟨by rw [hg]; rfl, hown (List.mem_reverse.mp (List.mem_of_find?_eq_some hg))⟩
  · rintro ⟨hg, hplan⟩
    obtain ⟨g', hg', hfile⟩ := Option.map_eq_some_iff.mp hg
    have hplan' := hown (List.mem_reverse.mp (List.mem_of_find?_eq_some hg'))
    rw [hfile, hplan] at hplan'
    rw [hg', Except.ok.inj hplan']

theorem exists_mem_files_of_make (h : make fs root files = .ok plan) {f : SourceFile}
    (hf : f ∈ files) : ∃ g ∈ plan.files, g.path = f.path := by
  obtain ⟨last, hlast⟩ := exists_lastSource? hf
  obtain ⟨hmem, hpath⟩ := lastSource?_eq_some hlast
  obtain ⟨planned, hplanned, _⟩ := make_eq_ok_iff.mp h
  obtain ⟨g, hg⟩ := exists_of_mapM_eq_ok hplanned hmem
  obtain rfl : g.file = last := (planFile_eq_ok_iff.mp hg).1
  exact ⟨g, (mem_files_iff_of_make h).mpr ⟨by rwa [PlannedFile.path, hpath], hg⟩, hpath⟩

theorem exists_make (h : ∀ f ∈ files, ∃ g, planFile fs root f = .ok g) :
    ∃ plan, make fs root files = .ok plan := by
  cases hplanned : files.mapM (planFile fs root) with
  | error e =>
      obtain ⟨f, hf, he⟩ := exists_mem_of_mapM_eq_error hplanned
      obtain ⟨g, hg⟩ := h f hf
      rw [hg] at he
      cases he
  | ok planned => exact ⟨_, make_eq_ok_iff.mpr ⟨planned, hplanned, rfl⟩⟩

theorem exists_mem_of_make_eq_error {e : Failure} (h : make fs root files = .error e) :
    ∃ f ∈ files, planFile fs root f = .error e := by
  rw [make] at h
  cases hplanned : files.mapM (planFile fs root) with
  | error e' =>
      rw [hplanned] at h
      cases h
      exact exists_mem_of_mapM_eq_error hplanned
  | ok planned =>
      rw [hplanned] at h
      cases h

end Plan

end Blueprint
