import Blueprint.CommandLine.Run
import Blueprint.Proofs.Output.Generate

/-!
# Runs that change nothing

A run is blocked, refused or dry before it writes the first file, so it leaves the files as they
were. It is refused for the first generated file that cannot be planned, and it is blocked when a
check of the same graph fails.
-/

namespace Blueprint

variable {σ : Type} [FileSystem σ]

/-! ### What cannot be planned -/

namespace Plan

variable {fs : σ} {root target : Path} {f : SourceFile} {files : List SourceFile} {e : Failure}

/-- The path of a file does not resolve, or what is there cannot be read. -/
def Hinders (fs : σ) (root : Path) (f : SourceFile) (e : Failure) : Prop :=
  Output.resolve root f.path = .error e ∨
    ∃ target x, Output.resolve root f.path = .ok target ∧ FileSystem.present fs target ∧
      FileSystem.read fs target = .error x ∧ e = .file x

theorem current_eq_error_iff : current fs target = .error e ↔
    FileSystem.present fs target ∧ ∃ x, FileSystem.read fs target = .error x ∧ e = .file x := by
  rw [current]
  split_ifs with hpresent
  · cases FileSystem.read fs target <;> simp [Except.map, Except.mapError, hpresent, eq_comm]
  · simp [hpresent]

theorem planFile_eq_error_iff : planFile fs root f = .error e ↔ Hinders fs root f e := by
  cases hresolve : Output.resolve root f.path with
  | error e' => simp [planFile, Hinders, hresolve]
  | ok target =>
      have hcurrent : planFile fs root f = .error e ↔ current fs target = .error e := by
        rw [planFile, hresolve, ok_bind]
        cases current fs target <;> simp [pure, Except.pure]
      rw [hcurrent, current_eq_error_iff]
      simp [Hinders, hresolve]

theorem exists_planFile_iff : (∃ p, planFile fs root f = .ok p) ↔ ∀ e, ¬ Hinders fs root f e := by
  simp only [← planFile_eq_error_iff]
  cases planFile fs root f <;> simp

/-- Planning fails for the first file that cannot be planned. -/
theorem make_eq_error_iff : make fs root files = .error e ↔
    ∃ before f after, files = before ++ f :: after ∧
      (∀ f' ∈ before, ∀ e', ¬ Hinders fs root f' e') ∧ Hinders fs root f e := by
  have hmapM : make fs root files = .error e ↔ files.mapM (planFile fs root) = .error e := by
    rw [make]
    cases files.mapM (planFile fs root) <;> simp [pure, Except.pure]
  rw [hmapM, mapM_eq_error_iff]
  simp only [exists_planFile_iff, planFile_eq_error_iff]

end Plan

/-! ### How runs end -/

/-- Findings kept the run from planning. -/
def Generated.Blocked (run : Generated σ) : Prop := ∃ r, run.outcome = .ok r ∧ r.blocked = true

namespace Language

variable {l : Language} {g : Graph} {o : GenerateOptions} {fs : σ} (details : Bool)

theorem generate_of_blocked (h : o.blockOn.any g.report.fails) :
    (l.generate g o details fs).outcome =
      .ok ⟨g.report, .empty, .empty, true, repeatedPaths (g.sources l)⟩ := by
  simp [generate, compile, h]

theorem generate_of_dryRun (h : o.blockOn.any g.report.fails = false) (hdry : o.dryRun)
    {plan : Plan} (hplan : Plan.make fs o.out (g.sources l) = .ok plan) :
    (l.generate g o details fs).outcome =
      .ok ⟨g.report, plan, .empty, false, repeatedPaths (g.sources l)⟩ := by
  simp [generate, compile, h, hplan, hdry]

theorem not_blocked_of_any_eq_false (h : o.blockOn.any g.report.fails = false) :
    ¬ (l.generate g o details fs).Blocked := by
  rintro ⟨r, houtcome, hblocked⟩
  cases hplan : Plan.make fs o.out (g.sources l) with
  | error e =>
      rw [(generate_of_error details h hplan).1] at houtcome
      cases houtcome
  | ok plan =>
      cases hdry : o.dryRun with
      | true =>
          rw [generate_of_dryRun details h hdry hplan] at houtcome
          obtain rfl := Except.ok.inj houtcome
          cases hblocked
      | false =>
          rw [(generate_of_plan details h hdry hplan).1] at houtcome
          obtain rfl := Except.ok.inj houtcome
          cases hblocked

theorem blocked_iff :
    (l.generate g o details fs).Blocked ↔ o.blockOn.any g.report.fails = true := by
  constructor
  · intro hblocked
    by_contra h
    exact not_blocked_of_any_eq_false details (by simpa using h) hblocked
  · intro h
    exact ⟨_, generate_of_blocked details h, rfl⟩

theorem outcome_eq_error_iff {e : Failure} : (l.generate g o details fs).outcome = .error e ↔
    ¬ (l.generate g o details fs).Blocked ∧ Plan.make fs o.out (g.sources l) = .error e := by
  rw [blocked_iff]
  cases h : o.blockOn.any g.report.fails with
  | true => simp [generate_of_blocked details h]
  | false =>
      cases hplan : Plan.make fs o.out (g.sources l) with
      | error e' => simp [(generate_of_error details h hplan).1]
      | ok plan =>
          cases hdry : o.dryRun with
          | true => simp [generate_of_dryRun details h hdry hplan]
          | false => simp [(generate_of_plan details h hdry hplan).1]

theorem files_and_write_of_refused (h : (∃ e, (l.generate g o details fs).outcome = .error e) ∨
      (l.generate g o details fs).Blocked ∨ o.dryRun = true) :
    (l.generate g o details fs).files = fs ∧
      ∀ r, (l.generate g o details fs).outcome = .ok r → r.write = .empty := by
  cases hblock : o.blockOn.any g.report.fails with
  | true =>
      refine ⟨files_generate_of_blocked details hblock, fun r houtcome => ?_⟩
      rw [generate_of_blocked details hblock] at houtcome
      obtain rfl := Except.ok.inj houtcome
      rfl
  | false =>
      cases hplan : Plan.make fs o.out (g.sources l) with
      | error e =>
          obtain ⟨houtcome, hfiles⟩ := generate_of_error details hblock hplan
          refine ⟨hfiles, fun r hr => ?_⟩
          rw [houtcome] at hr
          cases hr
      | ok plan =>
          have hdry : o.dryRun = true := by
            obtain ⟨e, he⟩ | hblocked | hdry := h
            · rw [((outcome_eq_error_iff details).mp he).2] at hplan
              cases hplan
            · exact absurd hblocked (not_blocked_of_any_eq_false details hblock)
            · exact hdry
          refine ⟨files_generate_of_dryRun details hblock hdry, fun r houtcome => ?_⟩
          rw [generate_of_dryRun details hblock hdry hplan] at houtcome
          obtain rfl := Except.ok.inj houtcome
          rfl

end Language

namespace CommandLine.Session

theorem check_result {s : Session} {d : Disk} {snapshot : Path} {g : Graph}
    (h : Snapshot.importFrom d snapshot = .ok g) : (s.perform d (.check snapshot)).result =
      .ok (if g.report.fails s.settings.generate.failOn then 1 else 0) := by
  rw [perform, check, h]
  rfl

/-- A run that fails, is blocked or is dry leaves the files as they were. It fails for the first
file that cannot be planned, and it is blocked when a check fails. -/
theorem refused_run_changes_nothing (l : Language) (g : Graph) (o : GenerateOptions)
    (details : Bool) (fs : σ) :
    let run := l.generate g o details fs
    ((∃ e, run.outcome = .error e) ∨ run.Blocked ∨ o.dryRun = true →
      run.files = fs ∧ ∀ r, run.outcome = .ok r → r.write = .empty) ∧
    (∀ e, run.outcome = .error e ↔ ¬ run.Blocked ∧
      ∃ before f after, g.sources l = before ++ f :: after ∧
        (∀ f' ∈ before, ∀ e', ¬ Plan.Hinders fs o.out f' e') ∧ Plan.Hinders fs o.out f e) ∧
    (run.Blocked ↔ ∃ t, o.blockOn = some t ∧
      ∃ f ∈ g.report.findings, f.severity.atLeast t = true) ∧
    ∀ (s : Session) (d : Disk) (snapshot : Path), Snapshot.importFrom d snapshot = .ok g →
      o.blockOn = some s.settings.generate.failOn →
      ((s.perform d (.check snapshot)).result = .ok 1 ↔ run.Blocked) ∧
      ((s.perform d (.check snapshot)).result = .ok 0 ↔ ¬ run.Blocked) := by
  intro run
  refine ⟨Language.files_and_write_of_refused details, fun e => ?_, ?_, ?_⟩
  · rw [Language.outcome_eq_error_iff, Plan.make_eq_error_iff]
  · rw [Language.blocked_iff, Option.any_eq_true]
    simp [Report.fails]
  · intro s d snapshot himport hblockOn
    rw [check_result himport, Language.blocked_iff, hblockOn, Option.any_some]
    cases g.report.fails s.settings.generate.failOn <;> simp

/-- The file of the second entity is there and cannot be read. -/
def unreadable : Faulty MemoryFiles where
  base := .ofList [(⟨"out/Domain/Entities/Fare.cs"⟩, "old")]
  onRead p := if p.text = "out/Domain/Entities/Fare.cs" then some (.permissionDenied p) else none
  onWrite _ := none

def rideAndFare : Graph :=
  { Graph.empty "Trips" with
    entities := [⟨⟨"ride"⟩, "Ride", .guid, []⟩, ⟨⟨"fare"⟩, "Fare", .guid, []⟩] }

theorem refused_run_changes_nothing_of_unreadable :
    let run := Language.csharp.generate rideAndFare Language.intoOut false unreadable
    run.outcome = .error (.file (.permissionDenied ⟨"out/Domain/Entities/Fare.cs"⟩)) ∧
      run.files = unreadable := by
  intro run
  have houtcome : run.outcome =
      .error (.file (.permissionDenied ⟨"out/Domain/Entities/Fare.cs"⟩)) := by decide
  obtain ⟨hrefused, -⟩ := refused_run_changes_nothing Language.csharp rideAndFare Language.intoOut
    false unreadable
  exact ⟨houtcome, (hrefused (.inl ⟨_, houtcome⟩)).1⟩

end CommandLine.Session

end Blueprint
