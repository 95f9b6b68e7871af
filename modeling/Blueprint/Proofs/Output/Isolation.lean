import Blueprint.Proofs.Output.Write

/-!
# Failed writes

`Refuses` describes file systems that refuse to write some places, and leave every file as it was
when they do. A write to such a file system leaves what it would leave on one that refuses
nothing, but for the places that are refused: there the old files stay. Its errors are those of the
refused files that are not passed over, and it succeeds when there is none of them.
-/

namespace Blueprint

variable {σ τ : Type} [FileSystem σ] [FileSystem τ]

/-- File systems of one kind, with the places that they refuse to write. A text that is not refused
is read at its place afterwards, and nothing is read differently anywhere else. -/
structure Refuses (refusal : Path → Option FileFailure) (S : σ → Prop) : Prop where
  stays : ∀ fs, S fs → ∀ p content, S (FileSystem.write fs p content).2
  result : ∀ fs, S fs → ∀ p content, (FileSystem.write fs p content).1 =
    match refusal p with
    | some e => .error e
    | none => .ok ()
  read : ∀ fs, S fs → ∀ p content q, FileSystem.read (FileSystem.write fs p content).2 q =
    if refusal p = none ∧ q.same p then .ok content else FileSystem.read fs q

/-- Files in memory refuse nothing. -/
theorem refuses_memory : Refuses (fun _ => none) fun _ : MemoryFiles => True where
  stays _ _ _ _ := trivial
  result _ _ _ _ := rfl
  read m _ p content q := by
    have hwrite : (FileSystem.write m p content).2 = m.insert p content := rfl
    rw [hwrite, MemoryFiles.read_eq, MemoryFiles.read_eq, m.get?_insert]
    by_cases hq : q.same p <;> simp [hq]

/-- Writes that are made to fail are refused. -/
theorem Refuses.faulty {S : σ → Prop} (h : Refuses (fun _ => none) S)
    (refusal : Path → Option FileFailure) :
    Refuses refusal fun fs : Faulty σ => S fs.base ∧ ⟨fs.base, fun _ => none, refusal⟩ = fs := by
  have hwrite (base : σ) (p : Path) (content : String) :
      FileSystem.write (⟨base, fun _ => none, refusal⟩ : Faulty σ) p content =
        match refusal p with
        | some e => (.error e, ⟨base, fun _ => none, refusal⟩)
        | none => ((FileSystem.write base p content).1,
            ⟨(FileSystem.write base p content).2, fun _ => none, refusal⟩) := rfl
  have hread (base : σ) (p : Path) :
      FileSystem.read (⟨base, fun _ => none, refusal⟩ : Faulty σ) p = FileSystem.read base p := rfl
  constructor
  · rintro fs ⟨hbase, hfs⟩ p content
    rw [← hfs, hwrite]
    cases refusal p with
    | some e => exact ⟨hbase, rfl⟩
    | none => exact ⟨h.stays fs.base hbase p content, rfl⟩
  · rintro fs ⟨hbase, hfs⟩ p content
    rw [← hfs, hwrite]
    cases refusal p with
    | some e => rfl
    | none => exact h.result fs.base hbase p content
  · rintro fs ⟨hbase, hfs⟩ p content q
    rw [← hfs, hwrite]
    cases hp : refusal p with
    | some e => simp
    | none => simpa [hp, hread] using h.read fs.base hbase p content q

namespace Plan

/-! ### One file -/

theorem writeFile_fst (fs : σ) (skipUnchanged : Bool) (f : PlannedFile) :
    (writeFile fs skipUnchanged f).1 =
      if passesOver skipUnchanged f then .unchanged
      else match (FileSystem.write fs f.target f.file.content).1 with
        | .ok () => .written
        | .error e => .failed e := by
  rw [writeFile, passesOver]
  split_ifs
  · rfl
  · obtain ⟨r, next⟩ := FileSystem.write fs f.target f.file.content
    cases r <;> rfl

theorem writeFile_snd (fs : σ) (skipUnchanged : Bool) (f : PlannedFile) :
    (writeFile fs skipUnchanged f).2 =
      if passesOver skipUnchanged f then fs
      else (FileSystem.write fs f.target f.file.content).2 := by
  rw [writeFile, passesOver]
  split_ifs
  · rfl
  · obtain ⟨r, next⟩ := FileSystem.write fs f.target f.file.content
    cases r <;> rfl

/-- Whether a planned file gets to its place. -/
def Reaches (refusal : Path → Option FileFailure) (skipUnchanged : Bool) (f : PlannedFile) :
    Prop := passesOver skipUnchanged f = false ∧ refusal f.target = none

section Refusing

variable {refusal : Path → Option FileFailure} {S : σ → Prop} (h : Refuses refusal S) {fs : σ}
  (hfs : S fs) (skipUnchanged : Bool) {p : Path} {files : List PlannedFile}
include h hfs

theorem stays_writeFile (f : PlannedFile) : S (writeFile fs skipUnchanged f).2 := by
  rw [writeFile_snd]
  split_ifs
  · exact hfs
  · exact h.stays fs hfs f.target f.file.content

theorem read_writeFile_of_reaches {f : PlannedFile} (hf : Reaches refusal skipUnchanged f)
    (hp : p.same f.target) :
    FileSystem.read (writeFile fs skipUnchanged f).2 p = .ok f.file.content := by
  rw [writeFile_snd, if_neg (by simp [hf.1]), h.read fs hfs, if_pos ⟨hf.2, hp⟩]

theorem read_writeFile_of_not_reaches {f : PlannedFile}
    (hp : p.same f.target → ¬ Reaches refusal skipUnchanged f) :
    FileSystem.read (writeFile fs skipUnchanged f).2 p = FileSystem.read fs p := by
  rw [writeFile_snd]
  split_ifs with hpass
  · rfl
  · rw [h.read fs hfs]
    exact if_neg fun ⟨hnone, hsame⟩ => hp hsame ⟨by simpa using hpass, hnone⟩

/-! ### Whole plans -/

theorem read_deeds_of_not_reaches
    (hp : ∀ f ∈ files, p.same f.target → ¬ Reaches refusal skipUnchanged f) :
    FileSystem.read (deeds skipUnchanged fs files).2 p = FileSystem.read fs p := by
  induction files generalizing fs with
  | nil => rfl
  | cons f files ih =>
      rw [List.forall_mem_cons] at hp
      rw [deeds_cons, ih (stays_writeFile h hfs skipUnchanged f) hp.2]
      exact read_writeFile_of_not_reaches h hfs skipUnchanged hp.1

theorem read_deeds_of_reaches
    (hdistinct : files.Pairwise fun f g => ¬ f.target.same g.target) {f : PlannedFile}
    (hf : f ∈ files) (hreaches : Reaches refusal skipUnchanged f) (hp : p.same f.target) :
    FileSystem.read (deeds skipUnchanged fs files).2 p = .ok f.file.content := by
  induction files generalizing fs with
  | nil => cases hf
  | cons g files ih =>
      rw [List.pairwise_cons] at hdistinct
      have hstays := stays_writeFile h hfs skipUnchanged g
      rw [deeds_cons]
      rcases List.mem_cons.mp hf with rfl | hf
      · -- No later file has the place of this one.
        rw [read_deeds_of_not_reaches h hstays skipUnchanged]
        · exact read_writeFile_of_reaches h hfs skipUnchanged hreaches hp
        · intro g hg hsame
          rw [Path.same_iff] at hp hsame
          exact absurd (Path.same_iff.mpr (hp.symm.trans hsame)) (hdistinct.1 g hg)
      · exact ih hstays hdistinct.2 hf

theorem errors_deeds : (resultOf (deeds skipUnchanged fs files).1).errors =
    files.filterMap fun f =>
      if passesOver skipUnchanged f then none
      else (refusal f.target).map fun e => (f.path, e.message) := by
  induction files generalizing fs with
  | nil => rfl
  | cons f files ih =>
      have ih := ih (stays_writeFile h hfs skipUnchanged f)
      rw [deeds_cons, resultOf, List.foldr_cons, ← resultOf, List.filterMap_cons, writeFile_fst,
        h.result fs hfs]
      by_cases hpass : passesOver skipUnchanged f
      · simpa [hpass, Deed.record] using ih
      · cases hrefusal : refusal f.target <;> simpa [hpass, hrefusal, Deed.record] using ih

end Refusing

/-- Writing a plan of distinct places to files that refuse some of them: outside the refused places
it leaves what writing without refusals leaves, the refused ones stay as they were, and the errors
are those of the refused files that were not passed over. -/
theorem write_isolates_refusals {refusal : Path → Option FileFailure} {S : σ → Prop}
    {T : τ → Prop} (h : Refuses refusal S) (hfree : Refuses (fun _ => none) T) {plan : Plan}
    (hplan : plan.Distinct) {fs : σ} {free : τ} (hfs : S fs) (hT : T free)
    (hsame : ∀ p, FileSystem.read fs p = FileSystem.read free p) (skipUnchanged details : Bool) :
    let run := plan.write skipUnchanged details fs
    let unhindered := plan.write skipUnchanged details free
    (∀ p, (∀ f ∈ plan.files, p.same f.target → refusal f.target = none) →
        FileSystem.read run.files p = FileSystem.read unhindered.files p) ∧
      (∀ f ∈ plan.files, passesOver skipUnchanged f = false → refusal f.target = none →
        FileSystem.read run.files f.target = .ok f.file.content) ∧
      (∀ p, (∀ f ∈ plan.files, p.same f.target → refusal f.target ≠ none) →
        FileSystem.read run.files p = FileSystem.read fs p) ∧
      (run.result.errors = plan.files.filterMap fun f =>
        if passesOver skipUnchanged f then none
        else (refusal f.target).map fun e => (f.path, e.message)) ∧
      (run.result.isSuccess ↔ run.result.errors = []) := by
  intro run unhindered
  refine ⟨fun p hp => ?_, fun f hf hpass hnone => ?_, fun p hp => ?_,
    errors_deeds h hfs skipUnchanged, List.isEmpty_iff⟩
  · by_cases hreached : ∃ f ∈ plan.files, p.same f.target ∧ passesOver skipUnchanged f = false
    · obtain ⟨f, hf, htarget, hpass⟩ := hreached
      have hleft : FileSystem.read run.files p = .ok f.file.content :=
        read_deeds_of_reaches h hfs skipUnchanged hplan hf ⟨hpass, hp f hf htarget⟩ htarget
      have hright : FileSystem.read unhindered.files p = .ok f.file.content :=
        read_deeds_of_reaches hfree hT skipUnchanged hplan hf ⟨hpass, rfl⟩ htarget
      rw [hleft, hright]
    · have hleft : FileSystem.read run.files p = FileSystem.read fs p :=
        read_deeds_of_not_reaches h hfs skipUnchanged
          fun f hf htarget hreaches => hreached ⟨f, hf, htarget, hreaches.1⟩
      have hright : FileSystem.read unhindered.files p = FileSystem.read free p :=
        read_deeds_of_not_reaches hfree hT skipUnchanged
          fun f hf htarget hreaches => hreached ⟨f, hf, htarget, hreaches.1⟩
      rw [hleft, hright, hsame]
  · exact read_deeds_of_reaches h hfs skipUnchanged hplan hf ⟨hpass, hnone⟩
      (Path.same_iff.mpr rfl)
  · exact read_deeds_of_not_reaches h hfs skipUnchanged
      fun f hf htarget hreaches => hp f hf htarget hreaches.2

/-- Three files: the first stands there as it is, the second stands there in another form, and the
third is new. -/
def threeFiles : Plan :=
  ⟨⟨"out"⟩, [⟨⟨"/Kept.txt", "same"⟩, ⟨"out/Kept.txt"⟩, .unchanged, some "same"⟩,
    ⟨⟨"/Barred.txt", "new"⟩, ⟨"out/Barred.txt"⟩, .modified, some "old"⟩,
    ⟨⟨"/Free.txt", "new"⟩, ⟨"out/Free.txt"⟩, .new, none⟩]⟩

def twoStanding : MemoryFiles :=
  .ofList [(⟨"out/Kept.txt"⟩, "same"), (⟨"out/Barred.txt"⟩, "old")]

/-- Only the new file can be written. -/
def barring (p : Path) : Option FileFailure :=
  if p.text = "out/Free.txt" then none else some (.permissionDenied p)

theorem write_isolates_refusals_of_barring :
    let fs : Faulty MemoryFiles := ⟨twoStanding, fun _ => none, barring⟩
    let run := threeFiles.write true false fs
    FileSystem.read run.files ⟨"out/Free.txt"⟩ = .ok "new" ∧
      FileSystem.read run.files ⟨"out/Barred.txt"⟩ = .ok "old" ∧
      run.result.errors = [("/Barred.txt", "Permission denied: out/Barred.txt")] ∧
      ¬ run.result.isSuccess := by
  intro fs run
  have hdistinct : threeFiles.Distinct := by decide
  have hfs : True ∧ (⟨fs.base, fun _ => none, barring⟩ : Faulty MemoryFiles) = fs := ⟨trivial, rfl⟩
  have hsame : ∀ p, FileSystem.read fs p = FileSystem.read twoStanding p := fun _ => rfl
  obtain ⟨-, hfree, hbarred, herrors, hsuccess⟩ := write_isolates_refusals
    (refuses_memory.faulty barring) refuses_memory hdistinct hfs trivial hsame true false
  have herrors : run.result.errors = [("/Barred.txt", "Permission denied: out/Barred.txt")] :=
    herrors.trans (by decide)
  refine ⟨hfree ⟨⟨"/Free.txt", "new"⟩, ⟨"out/Free.txt"⟩, .new, none⟩ (by decide) rfl rfl,
    (hbarred ⟨"out/Barred.txt"⟩ (by decide)).trans rfl, herrors, ?_⟩
  rw [hsuccess, herrors]
  simp

end Plan

end Blueprint
