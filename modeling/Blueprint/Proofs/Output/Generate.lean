import Blueprint.Output.Generate
import Blueprint.Language.CSharp
import Blueprint.Proofs.Output.Settled
import Blueprint.Proofs.Source.Path

/-!
# What a run changes

A run changes files only by writing a plan, so whatever it changes lies below the output directory,
and a path that leads upwards keeps it from changing anything. A run that writes leaves the last
file of each path at its place, and running once more finds nothing left to do.
-/

namespace Blueprint.Language

/-! ### How runs end -/

section Ends

variable {σ : Type} [FileSystem σ] {l : Language} {g : Graph} {o : GenerateOptions} {fs : σ}
  (details : Bool)

theorem files_generate_of_blocked (h : o.blockOn.any g.report.fails) :
    (l.generate g o details fs).files = fs := by simp [generate, compile, h]

section Unblocked

variable (h : o.blockOn.any g.report.fails = false)
include h

theorem generate_of_error {e : Failure} (hplan : Plan.make fs o.out (g.sources l) = .error e) :
    (l.generate g o details fs).outcome = .error e ∧ (l.generate g o details fs).files = fs := by
  simp [generate, compile, h, hplan]

theorem files_generate_of_dryRun (hdry : o.dryRun) : (l.generate g o details fs).files = fs := by
  cases hplan : Plan.make fs o.out (g.sources l) <;> simp [generate, compile, h, hplan, hdry]

theorem generate_of_plan (hdry : o.dryRun = false) {plan : Plan}
    (hplan : Plan.make fs o.out (g.sources l) = .ok plan) :
    (l.generate g o details fs).outcome =
        .ok ⟨g.report, plan, (plan.write o.skipUnchanged details fs).result, false,
          repeatedPaths (g.sources l)⟩ ∧
      (l.generate g o details fs).files = (plan.write o.skipUnchanged details fs).files := by
  simp [generate, compile, h, hplan, hdry]

end Unblocked

variable (l g o fs)

theorem files_generate_cases : (l.generate g o details fs).files = fs ∨
    ∃ plan, Plan.make fs o.out (g.sources l) = .ok plan ∧
      (l.generate g o details fs).files = (plan.write o.skipUnchanged details fs).files := by
  cases hblock : o.blockOn.any g.report.fails with
  | true => exact .inl (files_generate_of_blocked details hblock)
  | false =>
      cases hdry : o.dryRun with
      | true => exact .inl (files_generate_of_dryRun details hblock hdry)
      | false =>
          cases hplan : Plan.make fs o.out (g.sources l) with
          | error e => exact .inl (generate_of_error details hblock hplan).2
          | ok plan => exact .inr ⟨plan, rfl, (generate_of_plan details hblock hdry hplan).2⟩

end Ends

/-! ### Where runs write -/

section Containment

variable (l : Language) (g : Graph) (o : GenerateOptions) (details : Bool) (fs : MemoryFiles)

theorem below_of_get?_ne {p : Path} (hp : (l.generate g o details fs).files.get? p ≠ fs.get? p) :
    o.out.Below p := by
  obtain hfiles | ⟨plan, hplan, hfiles⟩ := files_generate_cases l g o fs details
  · rw [hfiles] at hp
    exact absurd rfl hp
  · rw [hfiles] at hp
    by_contra hbelow
    refine hp (Plan.get?_write_of_not_same hplan _ _ ?_)
    intro f _ target htarget hsame
    exact hbelow ((Output.below_of_resolve htarget).of_same hsame)

/-- Planning meets the first path that leads upwards before anything is written. -/
theorem changes_below_and_parent_refused :
    (∀ p, (l.generate g o details fs).files.get? p ≠ fs.get? p → o.out.Below p) ∧
      (o.blockOn.any g.report.fails = false →
        (∃ f ∈ g.sources l, .parent ∈ (Path.mk f.path).components) →
        ∃ f ∈ g.sources l, .parent ∈ (Path.mk f.path).components ∧
          (l.generate g o details fs).outcome = .error (.pathEscape f.path o.out) ∧
          (l.generate g o details fs).files = fs) := by
  refine ⟨fun p hp => below_of_get?_ne l g o details fs hp, ?_⟩
  rintro hblock ⟨f, hf, hparent⟩
  cases hplan : Plan.make fs o.out (g.sources l) with
  | ok plan =>
      have hresolve := Plan.exists_resolve_of_make hplan hf
      exact absurd hparent ((Graph.exists_resolve_source_iff hf).mp hresolve)
  | error e =>
      obtain ⟨f', hf', he⟩ := Plan.resolve_of_make_eq_error hplan
      obtain ⟨houtcome, hfiles⟩ := generate_of_error details hblock hplan
      refine ⟨f', hf', ?_, ?_, hfiles⟩
      · by_contra hnone
        obtain ⟨target, ht⟩ := (Graph.exists_resolve_source_iff hf').mpr hnone
        rw [he] at ht
        cases ht
      · rw [houtcome, Output.eq_of_resolve_eq_error he]

end Containment

/-- A design of one entity. -/
def oneEntity (name : String) : Graph :=
  { Graph.empty "Trips" with entities := [⟨⟨"ride"⟩, name, .guid, []⟩] }

def intoOut : GenerateOptions := ⟨⟨"out"⟩, false, none, true⟩

theorem changes_below_and_parent_refused_of_ride :
    (csharp.generate (oneEntity "Ride") intoOut false MemoryFiles.empty).files.get?
        ⟨"out/Domain/Entities/Ride.cs"⟩ ≠ none ∧
      (Path.mk "out").Below ⟨"out/Domain/Entities/Ride.cs"⟩ ∧
      (csharp.generate (oneEntity "../Ride") intoOut false MemoryFiles.empty).outcome =
        .error (.pathEscape "/Domain/Entities/../Ride.cs" ⟨"out"⟩) := by
  have hwritten : (csharp.generate (oneEntity "Ride") intoOut false MemoryFiles.empty).files.get?
      ⟨"out/Domain/Entities/Ride.cs"⟩ ≠ none := by decide
  obtain ⟨hbelow, _⟩ :=
    changes_below_and_parent_refused csharp (oneEntity "Ride") intoOut false MemoryFiles.empty
  obtain ⟨_, hrefused⟩ :=
    changes_below_and_parent_refused csharp (oneEntity "../Ride") intoOut false MemoryFiles.empty
  have hclimbs : ∃ f ∈ (oneEntity "../Ride").sources csharp,
      .parent ∈ (Path.mk f.path).components := by decide
  obtain ⟨f, hf, _, houtcome, _⟩ := hrefused rfl hclimbs
  obtain rfl := List.mem_singleton.mp hf
  exact ⟨hwritten, hbelow _ hwritten, houtcome⟩

/-! ### Running twice -/

section Again

variable {l : Language} {g : Graph} {o : GenerateOptions} (details : Bool) (fs : MemoryFiles)
  (hblock : o.blockOn.any g.report.fails = false) (hdry : o.dryRun = false)
  (hresolve : ∀ f ∈ g.sources l, ∃ target, Output.resolve o.out f.path = .ok target)
include hblock hdry hresolve

theorem exists_generate_of_resolve : ∃ plan, Plan.make fs o.out (g.sources l) = .ok plan ∧
    (l.generate g o details fs).outcome =
        .ok ⟨g.report, plan, (plan.write o.skipUnchanged details fs).result, false,
          repeatedPaths (g.sources l)⟩ ∧
      (l.generate g o details fs).files = (plan.write o.skipUnchanged details fs).files := by
  obtain ⟨plan, hplan⟩ := Plan.exists_make_memory hresolve
  exact ⟨plan, hplan, generate_of_plan details hblock hdry hplan⟩

/-- A run over settled files that passes over unchanged ones does nothing. -/
theorem generate_of_settled (hskip : o.skipUnchanged = true)
    (hs : Plan.Settled fs o.out (g.sources l)) :
    ∃ r, (l.generate g o details fs).outcome = .ok r ∧ r.blocked = false ∧
      (∀ f ∈ r.plan.files, f.change = .unchanged) ∧
      r.write = ⟨[], r.plan.files.map PlannedFile.path, []⟩ ∧
      (l.generate g o details fs).files = fs := by
  obtain ⟨plan, hplan, houtcome, hfiles⟩ :=
    exists_generate_of_resolve details fs hblock hdry hresolve
  have hunchanged : ∀ f ∈ plan.files, f.change = .unchanged := fun f hf =>
    Plan.change_eq_unchanged_of_settled hplan hf hs
  obtain ⟨hresult, hrest⟩ := Plan.write_of_unchanged hunchanged plan.root details fs
  rw [hskip] at houtcome hfiles
  exact ⟨_, houtcome, rfl, hunchanged, hresult, hfiles.trans hrest⟩

end Again

theorem isName_extension_csharp : IsName ("." ++ csharp.extension) := by
  refine ⟨?_, ?_, ?_, ?_⟩ <;> decide

/-- Whatever was on disk, one run settles it and the next one rests. -/
theorem generate_settles_and_rests (g : Graph) (hg : g.Flat) (o : GenerateOptions)
    (hdry : o.dryRun = false) (hskip : o.skipUnchanged = true)
    (hblock : o.blockOn.any g.report.fails = false) (details : Bool) (fs : MemoryFiles) :
    let run := csharp.generate g o details fs
    let again := csharp.generate g o details run.files
    (∃ r, run.outcome = .ok r ∧ r.isSuccess) ∧
      (Plan.Hashed fs o.out (g.sources csharp) → ∀ f ∈ g.sources csharp, ∃ target last,
        Output.resolve o.out f.path = .ok target ∧
          lastSource? (g.sources csharp) f.path = some last ∧
          run.files.get? target = some last.content) ∧
      (∀ p : Path, (∀ f ∈ g.sources csharp, ∀ target,
        Output.resolve o.out f.path = .ok target → ¬ p.same target) →
          run.files.get? p = fs.get? p) ∧
      ∃ r, again.outcome = .ok r ∧ r.blocked = false ∧
        (∀ f ∈ r.plan.files, f.change = .unchanged) ∧
        r.write = ⟨[], r.plan.files.map PlannedFile.path, []⟩ ∧ again.files = run.files := by
  intro run again
  have hresolve : ∀ f ∈ g.sources csharp, ∃ target, Output.resolve o.out f.path = .ok target :=
    fun f hf => Graph.exists_resolve_of_flat hg isName_extension_csharp o.out hf
  have hfiles : Plan.Unambiguous (g.sources csharp) := fun f hf f' hf' hnames =>
    Graph.path_eq_of_flat hg isName_extension_csharp hf hf' hnames
  obtain ⟨plan, hplan, houtcome, hrun⟩ :=
    exists_generate_of_resolve details fs hblock hdry hresolve
  change run.files = _ at hrun
  refine ⟨⟨_, houtcome, ?_⟩, ?_, ?_, ?_⟩
  · simp [GenerateResult.isSuccess, WriteResult.isSuccess, Plan.errors_write]
  · intro hhashed f hf
    obtain ⟨target, htarget⟩ := hresolve f hf
    obtain ⟨last, hlast⟩ := exists_lastSource? hf
    refine ⟨target, last, htarget, hlast, ?_⟩
    rw [hrun]
    exact Plan.get?_write_of_hashed hplan hfiles _ _ hhashed hlast htarget
  · intro p hp
    rw [hrun]
    exact Plan.get?_write_of_not_same hplan _ _ hp
  · refine generate_of_settled details run.files hblock hdry hresolve hskip ?_
    rw [hrun]
    exact Plan.settled_write hplan hfiles _ _

/-- Two repositories of one name. -/
def twoPorts : Graph :=
  { Graph.empty "Trips" with
    repositories := [⟨⟨"bare"⟩, "IRides", []⟩, ⟨⟨"full"⟩, "IRides", [⟨"all", "void All()"⟩]⟩] }

def stale : MemoryFiles :=
  .ofList [(⟨"out/Application/Ports/IRides.cs"⟩, "old"), (⟨"notes.txt"⟩, "mine")]

theorem generate_settles_and_rests_of_stale :
    let run := csharp.generate twoPorts intoOut false stale
    run.files.get? ⟨"out/Application/Ports/IRides.cs"⟩ =
        (twoPorts.sources csharp).getLast?.map SourceFile.content ∧
      run.files.get? ⟨"notes.txt"⟩ = some "mine" ∧
      (csharp.generate twoPorts intoOut false run.files).files = run.files := by
  intro run
  have hflat : twoPorts.Flat := by
    intro k
    cases k <;> decide
  have hsources : ∀ f ∈ twoPorts.sources csharp,
      Output.resolve ⟨"out"⟩ f.path = .ok ⟨"out/Application/Ports/IRides.cs"⟩ ∧
        lastSource? (twoPorts.sources csharp) f.path = (twoPorts.sources csharp).getLast? ∧
        contentHash "old" ≠ contentHash f.content := by decide +kernel
  have hplace : ∀ f ∈ twoPorts.sources csharp, ∀ target,
      Output.resolve ⟨"out"⟩ f.path = .ok target →
        target = ⟨"out/Application/Ports/IRides.cs"⟩ := by
    intro f hf target htarget
    exact Except.ok.inj (htarget.symm.trans (hsources f hf).1)
  have hhashed : Plan.Hashed stale ⟨"out"⟩ (twoPorts.sources csharp) := by
    intro f hf target old htarget hold hhash
    have hstale : stale.get? ⟨"out/Application/Ports/IRides.cs"⟩ = some "old" := by decide
    rw [hplace f hf target htarget, hstale, Option.some.injEq] at hold
    rw [← hold] at hhash
    exact absurd hhash (hsources f hf).2.2
  obtain ⟨_, hlasts, hother, _, _, _, _, _, hagain⟩ :=
    generate_settles_and_rests twoPorts hflat intoOut rfl rfl rfl false stale
  refine ⟨?_, ?_, hagain⟩
  · obtain ⟨f, hf⟩ : ∃ f, f ∈ twoPorts.sources csharp := ⟨_, List.mem_cons_self⟩
    obtain ⟨target, last, htarget, hlast, hcontent⟩ := hlasts hhashed f hf
    rw [← (hsources f hf).2.1, hlast, ← hplace f hf target htarget]
    exact hcontent
  · refine (hother ⟨"notes.txt"⟩ ?_).trans (by decide)
    intro f hf target htarget
    rw [hplace f hf target htarget]
    decide

end Blueprint.Language
