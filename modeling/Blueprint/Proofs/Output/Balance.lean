import Blueprint.Proofs.Event.Trace
import Blueprint.Proofs.Output.Planning
import Blueprint.Proofs.Source.Repeats

/-!
# No file lost, none counted twice

A write leaves the path of each planned file in one list of its result, whichever writes the file
system refuses: the files that are passed over in `unchanged`, all others in `written` or `errors`.
Every list keeps the order of the plan. A plan has one file for each path, so a graph has as many
blocks as its plan has files, and one more for each time that a path comes back.
-/

namespace Blueprint

open Plan

/-! ### What a write accounts for -/

theorem Plan.passesOver_eq_false_iff {skipUnchanged : Bool} {f : PlannedFile} :
    passesOver skipUnchanged f = false ↔ ¬ (skipUnchanged = true ∧ f.change = .unchanged) := by
  rw [passesOver, ← Bool.not_eq_true, Bool.and_eq_true, beq_iff_eq]

namespace WriteTrace

variable {σ : Type} [FileSystem σ] {skipUnchanged details : Bool} {i : Nat} {fs last : σ}
  {files : List PlannedFile} {events : List Event} {r : WriteResult}
  (h : WriteTrace skipUnchanged details i fs files events r last)
include h

theorem unchanged_eq :
    r.unchanged = (files.filter (passesOver skipUnchanged)).map PlannedFile.path := by
  induction h with
  | done => rfl
  | unchanged hskip hchange _ ih => simp [passesOver, hskip, hchange, ih]
  | written hchange _ _ ih => simp [passesOver_eq_false_iff.mpr hchange, ih]
  | failed hchange _ _ ih => simp [passesOver_eq_false_iff.mpr hchange, ih]

/-- What is not passed over is written or fails. -/
theorem attempted_perm : (r.written ++ r.errors.map Prod.fst).Perm
    ((files.filter fun f => !passesOver skipUnchanged f).map PlannedFile.path) := by
  induction h with
  | done => exact .nil
  | unchanged hskip hchange _ ih => simpa [passesOver, hskip, hchange] using ih
  | written hchange _ _ ih =>
      have hpass := passesOver_eq_false_iff.mpr hchange
      simpa [hpass] using ih
  | failed hchange _ _ ih =>
      have hpass := passesOver_eq_false_iff.mpr hchange
      rw [List.filter_cons, hpass]
      exact List.perm_middle.trans (ih.cons _)

theorem written_sublist : r.written.Sublist (files.map PlannedFile.path) := by
  induction h with
  | done => exact .slnil
  | unchanged _ _ _ ih => exact ih.cons _
  | written _ _ _ ih => exact ih.cons_cons _
  | failed _ _ _ ih => exact ih.cons _

theorem errors_sublist : (r.errors.map Prod.fst).Sublist (files.map PlannedFile.path) := by
  induction h with
  | done => exact .slnil
  | unchanged _ _ _ ih => exact ih.cons _
  | written _ _ _ ih => exact ih.cons _
  | failed _ _ _ ih => exact ih.cons_cons _

theorem unchanged_sublist : r.unchanged.Sublist (files.map PlannedFile.path) := by
  rw [h.unchanged_eq]
  exact List.filter_sublist.map _

theorem perm : (r.written ++ r.unchanged ++ r.errors.map Prod.fst).Perm
    (files.map PlannedFile.path) := by
  calc r.written ++ r.unchanged ++ r.errors.map Prod.fst
      = r.written ++ (r.unchanged ++ r.errors.map Prod.fst) := List.append_assoc ..
    List.Perm _ (r.unchanged ++ (r.written ++ r.errors.map Prod.fst)) := by
        rw [← List.append_assoc, ← List.append_assoc]
        exact List.perm_append_comm.append_right _
    List.Perm _ ((files.filter (passesOver skipUnchanged) ++
          files.filter fun f => !passesOver skipUnchanged f).map PlannedFile.path) := by
        rw [List.map_append, ← h.unchanged_eq]
        exact h.attempted_perm.append_left _
    List.Perm _ (files.map PlannedFile.path) := (List.filter_append_perm _ _).map _

end WriteTrace

/-- The files that are passed over are the unchanged ones, or none. -/
theorem Plan.filter_passesOver (skipUnchanged : Bool) (files : List PlannedFile) :
    files.filter (passesOver skipUnchanged) =
      if skipUnchanged then files.filter (·.change == .unchanged) else [] := by
  cases skipUnchanged with
  | true => rfl
  | false => simp [passesOver]

/-- A plan holds each path once. -/
theorem Plan.length_files_of_make {σ : Type} [FileSystem σ] {fs : σ} {root : Path}
    {files : List SourceFile} {plan : Plan} (h : make fs root files = .ok plan) :
    plan.files.length = (files.map SourceFile.path).dedup.length := by
  have hnodup := nodup_paths_of_make h
  rw [map_path_of_make h] at hnodup
  have hperm : (files.map SourceFile.path).eraseDups.Perm (files.map SourceFile.path).dedup := by
    refine (List.perm_ext_iff_of_nodup hnodup (List.nodup_dedup _)).mpr fun p => ?_
    rw [List.mem_eraseDups, List.mem_dedup]
  rw [← hperm.length_eq, ← map_path_of_make h, List.length_map]

namespace Language

variable {σ : Type} [FileSystem σ]

/-- A run that writes accounts for every planned file once and in order, as a dry run says it
will, and its plan and the repeated paths account for every block. -/
theorem generate_accounts (l : Language) (g : Graph) (o : GenerateOptions) (details : Bool)
    (fs : σ) {r : GenerateResult} (houtcome : (l.generate g o details fs).outcome = .ok r)
    (hblocked : r.blocked = false) (hdry : o.dryRun = false) :
    let paths := r.plan.files.map PlannedFile.path
    let failed := r.write.errors.map Prod.fst
    (paths.Nodup ∧ (r.write.written ++ r.write.unchanged ++ failed).Perm paths) ∧
      (r.write.written.Sublist paths ∧ r.write.unchanged.Sublist paths ∧ failed.Sublist paths) ∧
      r.write.unchanged = (if o.skipUnchanged then
        (r.plan.files.filter (·.change == .unchanged)).map PlannedFile.path else []) ∧
      (∃ dry, (l.generate g { o with dryRun := true } details fs).outcome = .ok dry ∧
        dry.plan = r.plan ∧ (r.write.written ++ failed).Perm
          ((dry.plan.files.filter fun f => !passesOver o.skipUnchanged f).map
            PlannedFile.path)) ∧
      g.nodeCount = r.plan.files.length +
        (r.duplicates.map fun p => ((g.sources l).map SourceFile.path).count p - 1).sum := by
  intro paths failed
  have hunblocked : o.blockOn.any g.report.fails = false := by
    by_contra hblock
    rw [Bool.not_eq_false] at hblock
    rw [generate_of_blocked details hblock] at houtcome
    obtain rfl := Except.ok.inj houtcome
    cases hblocked
  cases hplan : Plan.make fs o.out (g.sources l) with
  | error e =>
      rw [(generate_of_error details hunblocked hplan).1] at houtcome
      cases houtcome
  | ok plan =>
      rw [(generate_of_plan details hunblocked hdry hplan).1] at houtcome
      obtain rfl := Except.ok.inj houtcome
      have htrace := writeTrace_write o.skipUnchanged details plan fs
      refine ⟨⟨nodup_paths_of_make hplan, htrace.perm⟩,
        ⟨htrace.written_sublist, htrace.unchanged_sublist, htrace.errors_sublist⟩, ?_,
        ⟨_, generate_of_dryRun (o := { o with dryRun := true }) details hunblocked rfl hplan, rfl,
          htrace.attempted_perm⟩, ?_⟩
      · rw [htrace.unchanged_eq, filter_passesOver, apply_ite (List.map _)]
        rfl
      · rw [Plan.length_files_of_make hplan, ← g.length_sources l,
          ← List.length_map (f := SourceFile.path), length_eq_add_sum_repeats]
        rfl

/-- A language that writes the name of a block and nothing else. -/
def bare : Language := ⟨"bare", "txt", fun _ k n => k.nodeName n⟩

/-- Two rides of one name, a fare and a value. -/
def ridesAndFare : Graph :=
  { Graph.empty "Trips" with
    valueObjects := [⟨⟨"money"⟩, "Money", []⟩]
    entities := [⟨⟨"ride-1"⟩, "Ride", .guid, []⟩, ⟨⟨"ride-2"⟩, "Ride", .int, []⟩,
      ⟨⟨"fare"⟩, "Fare", .guid, []⟩] }

/-- The fare stands there already, and the file of the rides cannot be written. -/
def guarded : Faulty MemoryFiles where
  base := .ofList [(⟨"out/Domain/Entities/Fare.txt"⟩, "Fare")]
  onRead _ := none
  onWrite p := if p.text = "out/Domain/Entities/Ride.txt" then some (.permissionDenied p) else none

theorem generate_accounts_of_guarded : ∃ r,
    (bare.generate ridesAndFare intoOut false guarded).outcome = .ok r ∧
      r.write = ⟨["/Domain/ValueObjects/Money.txt"], ["/Domain/Entities/Fare.txt"],
        [("/Domain/Entities/Ride.txt", "Permission denied: out/Domain/Entities/Ride.txt")]⟩ ∧
      (["/Domain/ValueObjects/Money.txt", "/Domain/Entities/Fare.txt",
        "/Domain/Entities/Ride.txt"]).Perm (r.plan.files.map PlannedFile.path) ∧
      ridesAndFare.nodeCount = r.plan.files.length + (r.duplicates.map fun p =>
        ((ridesAndFare.sources bare).map SourceFile.path).count p - 1).sum := by
  have hrun : (bare.generate ridesAndFare intoOut false guarded).outcome.map
      (fun r => (r.blocked, r.write)) = .ok (false,
        ⟨["/Domain/ValueObjects/Money.txt"], ["/Domain/Entities/Fare.txt"],
          [("/Domain/Entities/Ride.txt", "Permission denied: out/Domain/Entities/Ride.txt")]⟩) := by
    decide +kernel
  cases houtcome : (bare.generate ridesAndFare intoOut false guarded).outcome with
  | error e =>
      rw [houtcome] at hrun
      cases hrun
  | ok r =>
      rw [houtcome] at hrun
      obtain ⟨hblocked, hwrite⟩ := Prod.mk.inj (Except.ok.inj hrun)
      obtain ⟨⟨-, hperm⟩, -, -, -, hcount⟩ := generate_accounts bare ridesAndFare intoOut false
        guarded houtcome hblocked rfl
      rw [hwrite] at hperm
      exact ⟨r, rfl, hwrite, hperm, hcount⟩

end Language

end Blueprint
