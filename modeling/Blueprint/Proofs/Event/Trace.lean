import Blueprint.Proofs.CommandLine.Refusal

/-!
# What a run reports

The events of a run tell its story in order: the start, the findings, their counts, the sources,
then what became of each planned file, and at the end of a run that succeeds the totals.
`WriteTrace` is the rule for the planned files, with the files on disk before and after each of
them. Whether a sink wants details decides which events it is sent, and neither the result nor the
files.
-/

namespace Blueprint

namespace Event

def isCompleted : Event → Bool
  | .completed .. => true
  | _ => false

end Event

section WriteTrace

variable {σ : Type} [FileSystem σ]

/-- The planned files from an index on: each is passed over, written or refused, with one event for
it, of which only a refusal is more than a detail, and its path in one list of the result. -/
inductive WriteTrace (skipUnchanged details : Bool) :
    Nat → σ → List PlannedFile → List Event → WriteResult → σ → Prop where
  | done (i : Nat) (fs : σ) : WriteTrace skipUnchanged details i fs [] [] ⟨[], [], []⟩ fs
  | unchanged {i : Nat} {fs last : σ} {f : PlannedFile} {rest : List PlannedFile}
      {events : List Event} {r : WriteResult} (hskip : skipUnchanged = true)
      (hchange : f.change = .unchanged)
      (hrest : WriteTrace skipUnchanged details (i + 1) fs rest events r last) :
      WriteTrace skipUnchanged details i fs (f :: rest)
        ((if details then [.unchanged i f.path] else []) ++ events)
        { r with unchanged := f.path :: r.unchanged } last
  | written {i : Nat} {fs next last : σ} {f : PlannedFile} {rest : List PlannedFile}
      {events : List Event} {r : WriteResult}
      (hchange : ¬ (skipUnchanged = true ∧ f.change = .unchanged))
      (hwrite : FileSystem.write fs f.target f.file.content = (.ok (), next))
      (hrest : WriteTrace skipUnchanged details (i + 1) next rest events r last) :
      WriteTrace skipUnchanged details i fs (f :: rest)
        ((if details then [.written i f.path] else []) ++ events)
        { r with written := f.path :: r.written } last
  | failed {i : Nat} {fs next last : σ} {f : PlannedFile} {rest : List PlannedFile}
      {events : List Event} {r : WriteResult} {e : FileFailure}
      (hchange : ¬ (skipUnchanged = true ∧ f.change = .unchanged))
      (hwrite : FileSystem.write fs f.target f.file.content = (.error e, next))
      (hrest : WriteTrace skipUnchanged details (i + 1) next rest events r last) :
      WriteTrace skipUnchanged details i fs (f :: rest) (.fileFailed i f.path e.message :: events)
        { r with errors := (f.path, e.message) :: r.errors } last

variable {skipUnchanged details : Bool}

theorem WriteTrace.isCompleted_eq_false {i : Nat} {fs last : σ} {files : List PlannedFile}
    {events : List Event} {r : WriteResult}
    (h : WriteTrace skipUnchanged details i fs files events r last) :
    ∀ e ∈ events, e.isCompleted = false := by
  induction h with
  | done => simp
  | unchanged _ _ _ ih =>
      refine List.forall_mem_append.mpr ⟨?_, ih⟩
      cases details <;> simp [Event.isCompleted]
  | written _ _ _ ih =>
      refine List.forall_mem_append.mpr ⟨?_, ih⟩
      cases details <;> simp [Event.isCompleted]
  | failed _ _ _ ih => exact List.forall_mem_cons.mpr ⟨rfl, ih⟩

end WriteTrace

namespace Plan

variable {σ : Type} [FileSystem σ] (skipUnchanged details : Bool)

/-- The events of deeds whose files are numbered from an index on. -/
def eventsFrom (i : Nat) (ds : List (String × Deed)) : List Event :=
  (ds.mapIdx fun j d => d.2.events details (i + j) d.1).flatten

theorem eventsFrom_cons (i : Nat) (path : String) (deed : Deed) (ds : List (String × Deed)) :
    eventsFrom details i ((path, deed) :: ds) =
      deed.events details i path ++ eventsFrom details (i + 1) ds := by
  simp [eventsFrom, List.mapIdx_cons, Nat.add_assoc, Nat.add_comm 1]

theorem resultOf_cons (path : String) (deed : Deed) (ds : List (String × Deed)) :
    resultOf ((path, deed) :: ds) = deed.record path (resultOf ds) := rfl

theorem writeTrace_deeds (i : Nat) (fs : σ) (files : List PlannedFile) :
    WriteTrace skipUnchanged details i fs files
      (eventsFrom details i (deeds skipUnchanged fs files).1)
      (resultOf (deeds skipUnchanged fs files).1) (deeds skipUnchanged fs files).2 := by
  induction files generalizing i fs with
  | nil => exact .done i fs
  | cons f files ih =>
      rw [deeds_cons, eventsFrom_cons, resultOf_cons]
      by_cases hpass : skipUnchanged = true ∧ f.change = .unchanged
      · have hfile : writeFile fs skipUnchanged f = (.unchanged, fs) := by simp [writeFile, hpass]
        rw [hfile]
        exact .unchanged hpass.1 hpass.2 (ih (i + 1) fs)
      · have hskip : (skipUnchanged && f.change == .unchanged) = false := by simpa using hpass
        cases hwrite : FileSystem.write fs f.target f.file.content with
        | mk outcome next =>
            cases outcome with
            | ok =>
                have hfile : writeFile fs skipUnchanged f = (.written, next) := by
                  simp [writeFile, hskip, hwrite]
                rw [hfile]
                exact .written hpass hwrite (ih (i + 1) next)
            | error e =>
                have hfile : writeFile fs skipUnchanged f = (.failed e, next) := by
                  simp [writeFile, hskip, hwrite]
                rw [hfile]
                exact .failed hpass hwrite (ih (i + 1) next)

theorem writeTrace_write (plan : Plan) (fs : σ) : WriteTrace skipUnchanged details 0 fs plan.files
    (plan.write skipUnchanged details fs).events (plan.write skipUnchanged details fs).result
    (plan.write skipUnchanged details fs).files := by
  have htrace := writeTrace_deeds skipUnchanged details 0 fs plan.files
  simpa [eventsFrom, eventsOf, write] using htrace

end Plan

/-! ### Whole runs -/

theorem Graph.length_sources (g : Graph) (l : Language) :
    (g.sources l).length = g.nodeCount := by
  simp [sources, kindSources, Kind.all, nodeCount, count, Nat.add_assoc]

/-- The event that ends a run over a number of blocks, when it succeeds. -/
def Event.totals (blocks : Nat) : Except Failure GenerateResult → List Event
  | .ok r => [.completed blocks r.write.written.length r.write.unchanged.length
      r.write.errors.length]
  | .error _ => []

theorem Event.filter_isCompleted_totals (blocks : Nat) (outcome : Except Failure GenerateResult) :
    (totals blocks outcome).filter isCompleted = totals blocks outcome := by
  cases outcome <;> rfl

theorem Event.isCompleted_ofCompiled (g : Graph) (c : Compiled) (details : Bool) :
    ∀ e ∈ ofCompiled g c details, e.isCompleted = false := by
  refine List.forall_mem_append.mpr
    ⟨List.forall_mem_cons.mpr ⟨rfl, ?_⟩, List.forall_mem_cons.mpr ⟨rfl, ?_⟩⟩
  · cases details <;> simp [ofFinding, isCompleted]
  · cases details with
    | false => simp
    | true =>
        intro e he
        obtain ⟨i, hi, rfl⟩ := List.mem_mapIdx.mp he
        rfl

namespace Language

variable {σ : Type} [FileSystem σ] {l : Language} {g : Graph} {o : GenerateOptions} {fs : σ}
  (details : Bool)

section Unblocked

variable (h : o.blockOn.any g.report.fails = false)
include h

theorem events_generate_of_error {e : Failure}
    (hplan : Plan.make fs o.out (g.sources l) = .error e) :
    (l.generate g o details fs).events = Event.ofCompiled g (l.compile g) details := by
  simp [generate, compile, h, hplan]

theorem events_generate_of_dryRun (hdry : o.dryRun = true) {plan : Plan}
    (hplan : Plan.make fs o.out (g.sources l) = .ok plan) :
    (l.generate g o details fs).events =
      Event.ofCompiled g (l.compile g) details ++ [.completed g.nodeCount 0 0 0] := by
  simp [generate, compile, h, hplan, hdry, WriteResult.empty, g.length_sources]

theorem events_generate_of_plan (hdry : o.dryRun = false) {plan : Plan}
    (hplan : Plan.make fs o.out (g.sources l) = .ok plan) :
    (l.generate g o details fs).events = Event.ofCompiled g (l.compile g) details ++
      (plan.write o.skipUnchanged details fs).events ++
        Event.totals g.nodeCount (l.generate g o details fs).outcome := by
  rw [(generate_of_plan details h hdry hplan).1]
  simp [generate, compile, h, hplan, hdry, Event.totals, g.length_sources]

end Unblocked

theorem events_generate_of_blocked (h : o.blockOn.any g.report.fails) :
    (l.generate g o details fs).events =
      Event.ofCompiled g (l.compile g) details ++ [.completed g.nodeCount 0 0 0] := by
  simp [generate, compile, h, g.length_sources]

/-- A run that does not write has no events between those of the compilation and the totals. -/
theorem events_generate_of_refused (h : (∃ e, (l.generate g o details fs).outcome = .error e) ∨
      (l.generate g o details fs).Blocked ∨ o.dryRun = true) :
    (l.generate g o details fs).events = Event.ofCompiled g (l.compile g) details ++
      Event.totals g.nodeCount (l.generate g o details fs).outcome := by
  cases hblock : o.blockOn.any g.report.fails with
  | true =>
      rw [events_generate_of_blocked details hblock, generate_of_blocked details hblock]
      rfl
  | false =>
      cases hplan : Plan.make fs o.out (g.sources l) with
      | error e =>
          rw [events_generate_of_error details hblock hplan,
            (generate_of_error details hblock hplan).1]
          exact (List.append_nil _).symm
      | ok plan =>
          have hdry : o.dryRun = true := by
            obtain ⟨e, he⟩ | hblocked | hdry := h
            · rw [((outcome_eq_error_iff details).mp he).2] at hplan
              cases hplan
            · exact absurd hblocked (not_blocked_of_any_eq_false details hblock)
            · exact hdry
          rw [events_generate_of_dryRun details hblock hdry hplan,
            generate_of_dryRun details hblock hdry hplan]
          rfl

/-- A run that neither fails nor is blocked nor dry writes its plan. -/
theorem exists_plan_of_not_refused (h : ¬ ((∃ e, (l.generate g o details fs).outcome = .error e) ∨
      (l.generate g o details fs).Blocked ∨ o.dryRun = true)) :
    o.blockOn.any g.report.fails = false ∧ o.dryRun = false ∧
      ∃ plan, Plan.make fs o.out (g.sources l) = .ok plan := by
  push Not at h
  obtain ⟨herror, hblocked, hdry⟩ := h
  rw [blocked_iff, Bool.not_eq_true] at hblocked
  rw [ne_eq, Bool.not_eq_true] at hdry
  refine ⟨hblocked, hdry, ?_⟩
  cases hplan : Plan.make fs o.out (g.sources l) with
  | error e => exact absurd (generate_of_error details hblocked hplan).1 (herror e)
  | ok plan => exact ⟨plan, rfl⟩

/-- Between the compilation and the totals stand the events of the planned files. -/
theorem exists_writes (l : Language) (g : Graph) (o : GenerateOptions) (details : Bool) (fs : σ) :
    let run := l.generate g o details fs
    ∃ writes, run.events =
        Event.ofCompiled g (l.compile g) details ++ writes ++ Event.totals g.nodeCount run.outcome ∧
      (∀ e ∈ writes, e.isCompleted = false) ∧
      ((∃ e, run.outcome = .error e) ∨ run.Blocked ∨ o.dryRun = true → writes = []) ∧
      ∀ r, run.outcome = .ok r → r.blocked = false → o.dryRun = false →
        WriteTrace o.skipUnchanged details 0 fs r.plan.files writes r.write run.files := by
  intro run
  by_cases h : (∃ e, run.outcome = .error e) ∨ run.Blocked ∨ o.dryRun = true
  · refine ⟨[], ?_, by simp, fun _ => rfl, fun r houtcome hblocked hdry => ?_⟩
    · rw [List.append_nil]
      exact events_generate_of_refused details h
    · obtain ⟨e, he⟩ | ⟨r', hr', hblocked'⟩ | hdry' := h
      · rw [he] at houtcome
        cases houtcome
      · rw [hr'] at houtcome
        obtain rfl := Except.ok.inj houtcome
        simp [hblocked] at hblocked'
      · simp [hdry] at hdry'
  · obtain ⟨hblock, hdry, plan, hplan⟩ := exists_plan_of_not_refused details h
    have htrace := Plan.writeTrace_write o.skipUnchanged details plan fs
    refine ⟨_, events_generate_of_plan details hblock hdry hplan, htrace.isCompleted_eq_false,
      fun hrefused => absurd hrefused h, fun r houtcome _ _ => ?_⟩
    obtain ⟨houtcome', hfiles⟩ := generate_of_plan details hblock hdry hplan
    obtain rfl := Except.ok.inj (houtcome'.symm.trans houtcome)
    exact hfiles ▸ htrace

theorem outcome_and_files_eq (other : Bool) :
    (l.generate g o other fs).outcome = (l.generate g o details fs).outcome ∧
      (l.generate g o other fs).files = (l.generate g o details fs).files := by
  cases hblock : o.blockOn.any g.report.fails with
  | true =>
      rw [generate_of_blocked details hblock, generate_of_blocked other hblock,
        files_generate_of_blocked details hblock, files_generate_of_blocked other hblock]
      exact ⟨rfl, rfl⟩
  | false =>
      cases hplan : Plan.make fs o.out (g.sources l) with
      | error e =>
          obtain ⟨houtcome, hfiles⟩ := generate_of_error details hblock hplan
          obtain ⟨houtcome', hfiles'⟩ := generate_of_error other hblock hplan
          exact ⟨houtcome'.trans houtcome.symm, hfiles'.trans hfiles.symm⟩
      | ok plan =>
          cases hdry : o.dryRun with
          | true =>
              rw [generate_of_dryRun details hblock hdry hplan,
                generate_of_dryRun other hblock hdry hplan,
                files_generate_of_dryRun details hblock hdry,
                files_generate_of_dryRun other hblock hdry]
              exact ⟨rfl, rfl⟩
          | false =>
              obtain ⟨houtcome, hfiles⟩ := generate_of_plan details hblock hdry hplan
              obtain ⟨houtcome', hfiles'⟩ := generate_of_plan other hblock hdry hplan
              exact ⟨houtcome'.trans houtcome.symm, hfiles'.trans hfiles.symm⟩

/-- The events of a run in their order. Details are sent to the sinks that want them; the totals
come last and once, exactly when the run succeeds; and every sink sees the same result and files. -/
theorem generate_reports (l : Language) (g : Graph) (o : GenerateOptions) (details : Bool)
    (fs : σ) :
    let run := l.generate g o details fs
    (∃ writes : List Event,
      run.events =
        .started g.heading.name g.nodeCount ::
            (if details then
              g.report.findings.map fun f => .finding f.node.text f.severity f.message
            else []) ++
          .validated g.report.errors g.report.warnings ::
            (if details then (g.sources l).mapIdx fun i f => .emitted i f.path else []) ++
          writes ++ Event.totals g.nodeCount run.outcome ∧
        ((∃ e, run.outcome = .error e) ∨ run.Blocked ∨ o.dryRun = true → writes = []) ∧
        ∀ r, run.outcome = .ok r → r.blocked = false → o.dryRun = false →
          WriteTrace o.skipUnchanged details 0 fs r.plan.files writes r.write run.files) ∧
      run.events.filter Event.isCompleted = Event.totals g.nodeCount run.outcome ∧
      ∀ other : Bool, (l.generate g o other fs).outcome = run.outcome ∧
        (l.generate g o other fs).files = run.files := by
  intro run
  obtain ⟨writes, hevents, hnone, hrefused, htrace⟩ := exists_writes l g o details fs
  refine ⟨⟨writes, hevents, hrefused, htrace⟩, ?_, outcome_and_files_eq details⟩
  have hopening := Event.isCompleted_ofCompiled g (l.compile g) details
  rw [hevents, List.filter_append, List.filter_append,
    List.filter_eq_nil_iff.mpr fun e he => ne_true_of_eq_false (hopening e he),
    List.filter_eq_nil_iff.mpr fun e he => ne_true_of_eq_false (hnone e he), List.nil_append,
    List.nil_append, Event.filter_isCompleted_totals]

/-- A refused write is told to every sink, a sink that wants no details among them. -/
example :
    let g := { Graph.empty "Trips" with entities := [⟨⟨"ride"⟩, "Ride", .guid, []⟩] }
    let fs : Faulty MemoryFiles := ⟨.empty, fun _ => none, fun p => some (.permissionDenied p)⟩
    (csharp.generate g ⟨⟨"out"⟩, false, none, true⟩ false fs).events =
      [.started "Trips" 1, .validated 0 0,
        .fileFailed 0 "/Domain/Entities/Ride.cs" "Permission denied: out/Domain/Entities/Ride.cs",
        .completed 1 0 0 1] := by decide

end Language

end Blueprint
