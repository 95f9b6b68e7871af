import Blueprint.Proofs.CommandLine.Stream
import Blueprint.Proofs.Event.Trace

/-!
# The status of a run

The JSON sink tells the status of a finished run once, with its totals. The status counts failed
writes and nothing else, so it is that of the run unless findings blocked it: then nothing was
written, no write failed and the status is a success, although the run is none and the command
exits with one.
-/

namespace Blueprint

open Json

namespace Event

/-- The status that the JSON sink gives an event. -/
def status? : Event → Option String
  | .completed _ _ _ errors => some (if errors = 0 then "success" else "partial")
  | _ => none

end Event

/-- The statuses that the lines of a log tell. -/
def toldStatuses (log : String) : List String :=
  (Text.lines log).filterMap fun line => do
    let v ← (Value.parse line).toOption
    if v.stringAt? "event" = some "complete" then v.stringAt? "status" else none

theorem Event.told_toJson (command : String) (e : Event) :
    (if (e.toJson command).stringAt? "event" = some "complete" then
      (e.toJson command).stringAt? "status" else none) = e.status? := by
  cases e <;> simp [Value.stringAt?, member?_toJson, members, name, Value.string?, status?]

theorem toldStatuses_render (command : String) (events : List Event) :
    toldStatuses ((Sink.json command).render events) = events.filterMap Event.status? := by
  rw [toldStatuses, Sink.lines_render_json, List.filterMap_map]
  congr 1
  funext e
  rw [Function.comp_apply, (e.toJson_reads_back command).2]
  exact e.told_toJson command

theorem Event.status?_eq_none {e : Event} (h : e.isCompleted = false) : e.status? = none := by
  cases e with
  | completed => cases h
  | _ => rfl

theorem filterMap_status?_eq_nil {events : List Event}
    (h : ∀ e ∈ events, e.isCompleted = false) : events.filterMap Event.status? = [] :=
  List.filterMap_eq_nil_iff.mpr fun e he => Event.status?_eq_none (h e he)

namespace GenerateResult

/-- The status by the writes of a result. -/
def writeStatus (r : GenerateResult) : String := if r.write.isSuccess then "success" else "partial"

theorem writeStatus_eq_success_iff {r : GenerateResult} :
    r.writeStatus = "success" ↔ r.write.isSuccess = true := by
  rw [writeStatus]
  split_ifs with h <;> simp [h]

end GenerateResult

namespace Language

variable {σ : Type} [FileSystem σ] {l : Language} {g : Graph} {o : GenerateOptions} {fs : σ}

theorem filterMap_status?_events (details : Bool) {r : GenerateResult}
    (houtcome : (l.generate g o details fs).outcome = .ok r) :
    (l.generate g o details fs).events.filterMap Event.status? = [r.writeStatus] := by
  obtain ⟨writes, hevents, hnone, -, -⟩ := exists_writes l g o details fs
  have hopening := Event.isCompleted_ofCompiled g (l.compile g) details
  rw [hevents, List.filterMap_append, List.filterMap_append, filterMap_status?_eq_nil hopening,
    filterMap_status?_eq_nil hnone, houtcome]
  simp [Event.totals, Event.status?, GenerateResult.writeStatus, WriteResult.isSuccess]

/-- Nothing that is blocked writes. -/
theorem write_of_blocked (details : Bool) {r : GenerateResult}
    (houtcome : (l.generate g o details fs).outcome = .ok r) (hblocked : r.blocked = true) :
    r.write = .empty :=
  (files_and_write_of_refused details (.inr (.inl ⟨r, houtcome, hblocked⟩))).2 r houtcome

end Language

namespace CommandLine.Session

theorem generateFrom_result {s : Session} {d : Disk} {l : Language} {g : Graph}
    {o : GenerateOptions} (hjson : s.ui.json = true) {r : GenerateResult}
    (houtcome : (l.generate g o true d).outcome = .ok r) :
    (s.generateFrom d l g o).result = .ok (Effect.exitCode !r.isSuccess) := by
  have hsink : s.sink "generate" = .json "generate" := if_pos hjson
  have hdetails : (Sink.json "generate").wantsDetails = true := rfl
  rw [generateFrom, hsink, hdetails, houtcome]
  cases s.ui.json <;> rfl

/-- A finished run tells one status. It is a success when the run is one or was blocked, so it
agrees with the run, and with the exit code of the command, exactly when the run was not blocked. -/
theorem status_tells_success_iff (l : Language) (g : Graph) (o : GenerateOptions)
    (command : String) {σ : Type} [FileSystem σ] :
    let sink := Sink.json command
    (∀ (fs : σ) (r : GenerateResult),
      let run := l.generate g o sink.wantsDetails fs
      run.outcome = .ok r →
        ∃ status, toldStatuses (sink.render run.events) = [status] ∧
          (status = "success" ↔ r.isSuccess = true ∨ r.blocked = true) ∧
          ((status = "success" ↔ r.isSuccess = true) ↔ r.blocked = false)) ∧
      ∀ (s : Session) (d : Disk) (r : GenerateResult), s.ui.json = true →
        (l.generate g o sink.wantsDetails d).outcome = .ok r →
          ∃ code, (s.generateFrom d l g o).result = .ok code ∧
            (code = 0 ↔ r.isSuccess = true) := by
  intro sink
  constructor
  · intro fs r run houtcome
    refine ⟨r.writeStatus, ?_, ?_⟩
    · rw [toldStatuses_render]
      exact Language.filterMap_status?_events _ houtcome
    · rw [GenerateResult.writeStatus_eq_success_iff]
      cases hblocked : r.blocked with
      | false => simp [GenerateResult.isSuccess, hblocked]
      | true =>
          rw [Language.write_of_blocked _ houtcome hblocked]
          simp [GenerateResult.isSuccess, hblocked, WriteResult.isSuccess, WriteResult.empty]
  · intro s d r hjson houtcome
    refine ⟨_, generateFrom_result hjson houtcome, ?_⟩
    cases r.isSuccess <;> simp [Effect.exitCode]

/-- No file can be written. -/
def refusing : Faulty MemoryFiles := ⟨.empty, fun _ => none, fun p => some (.permissionDenied p)⟩

/-- An aggregate without its root. -/
def rootless : Graph :=
  { Graph.empty "Trips" with aggregates := [⟨⟨"a"⟩, "Trip", ⟨"gone"⟩, [], ["one"]⟩] }

def strictly : GenerateOptions := ⟨⟨"generated"⟩, false, some .error, true⟩

/-- What a blocked run answers. -/
def blockedResult (l : Language) (g : Graph) : GenerateResult :=
  ⟨g.report, .empty, .empty, true, repeatedPaths (g.sources l)⟩

def jsonSession : Session := ⟨bareSurroundings, .standard, ⟨true, 0, false, false⟩⟩

theorem status_tells_success_iff_of_refusing :
    let run := Language.csharp.generate rideAndFare Language.intoOut true refusing
    (∃ r status, run.outcome = .ok r ∧ r.isSuccess = false ∧
      toldStatuses ((Sink.json "generate").render run.events) = [status] ∧
        status ≠ "success") ∧
      ∃ r code, (Language.csharp.generate rootless strictly true (Disk.blank [])).outcome = .ok r ∧
        r.isSuccess = false ∧
        (jsonSession.generateFrom (.blank []) Language.csharp rootless strictly).result =
          .ok code ∧ code ≠ 0 := by
  intro run
  have hfails : run.outcome.map (fun r => (r.isSuccess, r.blocked)) = .ok (false, false) := by
    decide
  constructor
  · cases houtcome : run.outcome with
    | error e =>
        rw [houtcome] at hfails
        cases hfails
    | ok r =>
        rw [houtcome] at hfails
        obtain ⟨hsuccess, hblocked⟩ := Prod.mk.inj (Except.ok.inj hfails)
        obtain ⟨status, htold, hstatus, -⟩ := (status_tells_success_iff Language.csharp
          rideAndFare Language.intoOut "generate").1 refusing r houtcome
        refine ⟨r, status, rfl, hsuccess, htold, fun h => ?_⟩
        simpa [hsuccess, hblocked] using hstatus.mp h
  · have hblock : strictly.blockOn.any rootless.report.fails := by decide
    have houtcome : (Language.csharp.generate rootless strictly true (Disk.blank [])).outcome =
        .ok (blockedResult Language.csharp rootless) := Language.generate_of_blocked true hblock
    obtain ⟨code, hresult, hcode⟩ := (status_tells_success_iff Language.csharp rootless strictly
      "generate" (σ := MemoryFiles)).2 jsonSession (.blank []) _ rfl houtcome
    exact ⟨_, code, houtcome, rfl, hresult, fun h => Bool.false_ne_true (hcode.mp h)⟩

/-- A blocked run tells a success and is none. -/
theorem not_status_tells_success_of_rootless :
    ¬ ∀ (g : Graph) (o : GenerateOptions) (fs : MemoryFiles) (r : GenerateResult),
      let run := Language.csharp.generate g o true fs
      run.outcome = .ok r →
        (toldStatuses ((Sink.json "generate").render run.events) = ["success"] ↔
          r.isSuccess = true) := by
  intro h
  have hblock : strictly.blockOn.any rootless.report.fails := by decide
  have houtcome : (Language.csharp.generate rootless strictly true MemoryFiles.empty).outcome =
      .ok (blockedResult Language.csharp rootless) := Language.generate_of_blocked true hblock
  have hsuccess := (h rootless strictly .empty _ houtcome).mp (by
    rw [toldStatuses_render, Language.events_generate_of_blocked true hblock]
    decide)
  cases hsuccess

end CommandLine.Session

end Blueprint
