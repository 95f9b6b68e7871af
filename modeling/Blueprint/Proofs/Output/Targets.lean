import Blueprint.Proofs.Output.Plan
import Mathlib.Data.List.Find

/-!
# The targets of a plan

Paths are merged by their texts, while a place on disk is known by its components. `Unambiguous`
says that no two generated paths spell one list of names differently. Exactly then the targets of
a plan are different places, and exactly then each place is planned with the last file generated
for it.
-/

namespace Blueprint.Plan

/-- No two files of the plan have the same place. -/
def Distinct (plan : Plan) : Prop := plan.files.Pairwise fun f g => ¬ f.target.same g.target

instance (plan : Plan) : Decidable plan.Distinct :=
  inferInstanceAs (Decidable (plan.files.Pairwise fun f g => ¬ f.target.same g.target))

/-- Every list of names is spelled in one way only. -/
def Unambiguous (files : List SourceFile) : Prop :=
  ∀ f ∈ files, ∀ g ∈ files, Output.names f.path = Output.names g.path → f.path = g.path

instance (files : List SourceFile) : Decidable (Unambiguous files) :=
  inferInstanceAs (Decidable (∀ f ∈ files, ∀ g ∈ files,
    Output.names f.path = Output.names g.path → f.path = g.path))

/-- The last of the files that resolve to a place. -/
def lastAt? (root : Path) (files : List SourceFile) (place : Path) : Option SourceFile :=
  files.reverse.find? fun f =>
    match Output.resolve root f.path with
    | .ok target => target.same place
    | .error _ => false

variable {σ : Type} [FileSystem σ] {fs : σ} {root : Path} {files : List SourceFile} {plan : Plan}

section Files

variable (h : make fs root files = .ok plan)
include h

theorem resolve_of_mem {g : PlannedFile} (hg : g ∈ plan.files) :
    Output.resolve root g.path = .ok g.target := by
  obtain ⟨_, hplan⟩ := (mem_files_iff_of_make h).mp hg
  exact (planFile_eq_ok_iff.mp hplan).2.1

theorem file_mem_of_mem {g : PlannedFile} (hg : g ∈ plan.files) : g.file ∈ files := by
  obtain ⟨hlast, _⟩ := (mem_files_iff_of_make h).mp hg
  exact (lastSource?_eq_some hlast).1

theorem exists_planned_of_last {path : String} {last : SourceFile} {target : Path}
    (hlast : lastSource? files path = some last)
    (htarget : Output.resolve root path = .ok target) :
    ∃ g ∈ plan.files, g.file = last ∧ g.target = target := by
  obtain ⟨hmem, rfl⟩ := lastSource?_eq_some hlast
  obtain ⟨g, hg, hpath⟩ := exists_mem_files_of_make h hmem
  obtain ⟨hfile, _⟩ := (mem_files_iff_of_make h).mp hg
  have hresolve := resolve_of_mem h hg
  rw [hpath, hlast, Option.some.injEq] at hfile
  rw [hpath, htarget, Except.ok.injEq] at hresolve
  exact ⟨g, hg, hfile.symm, hresolve.symm⟩

theorem exists_resolve_of_make {f : SourceFile} (hf : f ∈ files) :
    ∃ t, Output.resolve root f.path = .ok t := by
  obtain ⟨g, hg, hpath⟩ := exists_mem_files_of_make h hf
  exact ⟨g.target, hpath ▸ resolve_of_mem h hg⟩

theorem target_same_iff {f g : PlannedFile} (hf : f ∈ plan.files) (hg : g ∈ plan.files) :
    f.target.same g.target ↔ Output.names f.path = Output.names g.path :=
  Output.same_iff_of_resolve (resolve_of_mem h hf) (resolve_of_mem h hg)

theorem distinct_iff_unambiguous : plan.Distinct ↔ Unambiguous files := by
  constructor
  · intro hdistinct f hf g hg hnames
    obtain ⟨f', hf', hfpath⟩ := exists_mem_files_of_make h hf
    obtain ⟨g', hg', hgpath⟩ := exists_mem_files_of_make h hg
    rw [← hfpath, ← hgpath] at hnames ⊢
    by_contra hne
    have hsymm : Std.Symm fun f g : PlannedFile => ¬ f.target.same g.target :=
      ⟨fun f g hfg hgf => hfg (Path.same_iff.mpr (Path.same_iff.mp hgf).symm)⟩
    have hfg : f' ≠ g' := fun he => hne (he ▸ rfl)
    exact hdistinct.forall hf' hg' hfg ((target_same_iff h hf' hg').mpr hnames)
  · intro hfiles
    have hnodup := List.pairwise_map.mp (nodup_paths_of_make h)
    refine List.Pairwise.imp_of_mem ?_ hnodup
    intro f g hf hg hne hsame
    exact hne (hfiles _ (file_mem_of_mem h hf) _ (file_mem_of_mem h hg)
      ((target_same_iff h hf hg).mp hsame))

theorem lastAt?_target {g : PlannedFile} (hg : g ∈ plan.files) :
    lastAt? root files g.target =
      files.reverse.find? fun f => Output.names f.path == Output.names g.path := by
  rw [lastAt?]
  refine List.find?_congr fun f hf => ?_
  obtain ⟨t, ht⟩ := exists_resolve_of_make h (List.mem_reverse.mp hf)
  have hsame := Output.same_iff_of_resolve ht (resolve_of_mem h hg)
  rw [ht, Bool.eq_iff_iff, beq_iff_eq]
  exact hsame

theorem last_iff_unambiguous :
    (∀ g ∈ plan.files, lastAt? root files g.target = some g.file) ↔ Unambiguous files := by
  constructor
  · intro hlast f hf g hg hnames
    obtain ⟨f', hf', hfpath⟩ := exists_mem_files_of_make h hf
    obtain ⟨g', hg', hgpath⟩ := exists_mem_files_of_make h hg
    have hf'' := hlast f' hf'
    have hg'' := hlast g' hg'
    rw [lastAt?_target h hf', hfpath, hnames, ← hgpath, ← lastAt?_target h hg', hg''] at hf''
    rw [← hfpath, ← hgpath, PlannedFile.path, PlannedFile.path, Option.some.inj hf'']
  · intro hfiles g hg
    obtain ⟨hlast, _⟩ := (mem_files_iff_of_make h).mp hg
    rw [lastAt?_target h hg, ← hlast, lastSource?]
    refine List.find?_congr fun f hf => ?_
    rw [Bool.eq_iff_iff, beq_iff_eq, beq_iff_eq]
    constructor
    · exact hfiles f (List.mem_reverse.mp hf) g.file (file_mem_of_mem h hg)
    · intro hpath
      rw [hpath]

end Files

end Blueprint.Plan
