import Blueprint.Event
import Blueprint.Proofs.Event.Trace
import Blueprint.Proofs.Text.Lines
import Mathlib.Data.List.Flatten

/-!
# What the console shows

Two things decide which lines of a run the console sees: a sink that wants no details is sent fewer
events, and of those that it is sent each verbosity shows its own. Both only ever leave lines out
as the verbosity goes down. No verbosity leaves out a failed write.
-/

namespace Blueprint

namespace Event

/-- Only the sinks that want details are sent these. -/
def isDetail : Event → Bool
  | .finding .. => true
  | .emitted .. => true
  | .written .. => true
  | .unchanged .. => true
  | _ => false

def isFailure : Event → Bool
  | .fileFailed .. => true
  | _ => false

theorem filter_isDetail_ofCompiled (g : Graph) (c : Compiled) :
    (ofCompiled g c true).filter (!·.isDetail) = ofCompiled g c false := by
  have hfindings : (c.report.findings.map ofFinding).filter (!·.isDetail) = [] := by
    simp [ofFinding, isDetail]
  have hfiles : (c.files.mapIdx fun i f => emitted i f.path).filter (!·.isDetail) = [] := by
    rw [List.filter_eq_nil_iff]
    intro e he
    obtain ⟨i, hi, rfl⟩ := List.mem_mapIdx.mp he
    simp [isDetail]
  change ((started g.heading.name g.nodeCount :: c.report.findings.map ofFinding) ++
    validated c.report.errors c.report.warnings ::
      c.files.mapIdx fun i f => emitted i f.path).filter
      (!·.isDetail) = _
  rw [List.filter_append, List.filter_cons_of_pos rfl, hfindings, List.filter_cons_of_pos rfl,
    hfiles]
  rfl

theorem filter_isDetail_totals (blocks : Nat) (outcome : Except Failure GenerateResult) :
    (totals blocks outcome).filter (!·.isDetail) = totals blocks outcome := by
  cases outcome <;> rfl

end Event

theorem Deed.filter_isDetail_events (deed : Deed) (i : Nat) (path : String) :
    (deed.events true i path).filter (!·.isDetail) = deed.events false i path := by
  cases deed <;> rfl

namespace Plan

theorem filter_isDetail_eventsFrom (i : Nat) (ds : List (String × Deed)) :
    (eventsFrom true i ds).filter (!·.isDetail) = eventsFrom false i ds := by
  induction ds generalizing i with
  | nil => rfl
  | cons d ds ih =>
      obtain ⟨path, deed⟩ := d
      rw [eventsFrom_cons, eventsFrom_cons, List.filter_append, deed.filter_isDetail_events, ih]

theorem filter_isDetail_write {σ : Type} [FileSystem σ] (plan : Plan) (skipUnchanged : Bool)
    (fs : σ) : (plan.write skipUnchanged true fs).events.filter (!·.isDetail) =
      (plan.write skipUnchanged false fs).events := by
  have hdeeds := filter_isDetail_eventsFrom 0 (deeds skipUnchanged fs plan.files).1
  simpa [eventsFrom, eventsOf, write] using hdeeds

end Plan

namespace Language

variable {σ : Type} [FileSystem σ]

/-- A run without details sends the events of the run with details that are none. -/
theorem filter_isDetail_generate (l : Language) (g : Graph) (o : GenerateOptions) (fs : σ) :
    (l.generate g o true fs).events.filter (!·.isDetail) = (l.generate g o false fs).events := by
  have hopening := Event.filter_isDetail_ofCompiled g (l.compile g)
  by_cases h : (∃ e, (l.generate g o true fs).outcome = .error e) ∨
      (l.generate g o true fs).Blocked ∨ o.dryRun = true
  · have hsame : (l.generate g o false fs).outcome = (l.generate g o true fs).outcome :=
      (outcome_and_files_eq true false).1
    have hfalse : (∃ e, (l.generate g o false fs).outcome = .error e) ∨
        (l.generate g o false fs).Blocked ∨ o.dryRun = true := by
      rwa [Generated.Blocked, hsame]
    rw [events_generate_of_refused true h, events_generate_of_refused false hfalse,
      List.filter_append, hopening, Event.filter_isDetail_totals, hsame]
  · obtain ⟨hblock, hdry, plan, hplan⟩ := exists_plan_of_not_refused true h
    rw [events_generate_of_plan true hblock hdry hplan,
      events_generate_of_plan false hblock hdry hplan,
      List.filter_append, List.filter_append, hopening, Plan.filter_isDetail_write,
      Event.filter_isDetail_totals, (outcome_and_files_eq true false).1]

end Language

/-! ### Lines of the console -/

namespace Event

theorem shown_of_le {n v w : Nat} (h : v ≤ w) {text line : String}
    (hline : (if n ≤ v then some text else none) = some line) :
    (if n ≤ w then some text else none) = some line := by
  obtain ⟨hv, htext⟩ := Option.ite_none_right_eq_some.mp hline
  rw [if_pos (hv.trans h), htext]

/-- A line that a verbosity shows is shown at every higher one, and reads the same. -/
theorem consoleLine?_mono {v w : Nat} (h : v ≤ w) {e : Event} {line : String}
    (hline : e.consoleLine? v = some line) : e.consoleLine? w = some line := by
  cases e with
  | finding | completed | fileFailed => exact hline
  | started | validated | emitted | written | unchanged => exact shown_of_le h hline

theorem consoleLine?_of_isFailure {e : Event} (h : e.isFailure = true) (v w : Nat) :
    e.consoleLine? v = e.consoleLine? w := by
  cases e with
  | fileFailed => rfl
  | _ => cases h

theorem consoleLine?_zero_of_not_isFailure {e : Event} (h : e.isFailure = false) :
    e.consoleLine? 0 = none := by
  cases e with
  | fileFailed => cases h
  | _ => rfl

theorem isFailure_eq_false_of_isDetail {e : Event} (h : e.isDetail = true) :
    e.isFailure = false := by
  cases e with
  | fileFailed => cases h
  | _ => rfl

end Event

theorem filterMap_sublist_filterMap {α β : Type} {f g : α → Option β}
    (h : ∀ a b, f a = some b → g a = some b) (as : List α) :
    (as.filterMap f).Sublist (as.filterMap g) := by
  induction as with
  | nil => exact .slnil
  | cons a as ih =>
      cases hf : f a with
      | some b =>
          rw [List.filterMap_cons_some hf, List.filterMap_cons_some (h a b hf)]
          exact ih.cons_cons b
      | none =>
          rw [List.filterMap_cons_none hf]
          exact ih.trans ((List.sublist_cons_self a as).filterMap g)

namespace Language

variable {σ : Type} [FileSystem σ] (l : Language) (g : Graph) (o : GenerateOptions) (fs : σ)

/-- A run that is told to the console at a verbosity. -/
def toldRun (v : Nat) : Generated σ := l.generate g o (Sink.console v).wantsDetails fs

/-- The lines that the console shows of it. -/
def shownLines (v : Nat) : List String :=
  (l.toldRun g o fs v).events.filterMap (Sink.console v).line?

/-- Those of them that tell of failed writes. -/
def failureLines (v : Nat) : List String :=
  ((l.toldRun g o fs v).events.filter Event.isFailure).filterMap (Sink.console v).line?

/-- What verbosity zero leaves out by being sent no details, it would not show. -/
theorem shownLines_eq (v : Nat) : l.shownLines g o fs v =
    (l.generate g o true fs).events.filterMap (Event.consoleLine? v) := by
  cases v with
  | zero =>
      change (l.generate g o false fs).events.filterMap (Event.consoleLine? 0) = _
      rw [← filter_isDetail_generate, List.filterMap_filter]
      refine List.filterMap_congr fun e _ => ?_
      cases hdetail : e.isDetail with
      | false => rfl
      | true =>
          have hfailure := Event.isFailure_eq_false_of_isDetail hdetail
          exact (Event.consoleLine?_zero_of_not_isFailure hfailure).symm
  | succ v =>
      have hdetails : (Sink.console (v + 1)).wantsDetails = true :=
        decide_eq_true (Nat.le_add_left 1 v)
      rw [shownLines, toldRun, hdetails]
      rfl

/-- A failed write is no detail, so that every sink is sent it. -/
theorem filter_isFailure_generate (details : Bool) :
    (l.generate g o details fs).events.filter Event.isFailure =
      (l.generate g o true fs).events.filter Event.isFailure := by
  cases details with
  | true => rfl
  | false =>
      rw [← filter_isDetail_generate, List.filter_filter]
      refine List.filter_congr fun e _ => ?_
      cases hdetail : e.isDetail with
      | false => rw [Bool.not_false, Bool.and_true]
      | true => rw [Event.isFailure_eq_false_of_isDetail hdetail, Bool.false_and]

/-- Every verbosity shows the failed writes, and zero shows nothing else. -/
theorem failureLines_eq (v : Nat) : l.failureLines g o fs v = l.shownLines g o fs 0 := by
  rw [failureLines, toldRun, filter_isFailure_generate, shownLines_eq, List.filterMap_filter]
  refine List.filterMap_congr fun e _ => ?_
  cases hfailure : e.isFailure with
  | true => exact Event.consoleLine?_of_isFailure hfailure v 0
  | false => exact (Event.consoleLine?_zero_of_not_isFailure hfailure).symm

theorem shownLines_sublist {v w : Nat} (h : v ≤ w) :
    (l.shownLines g o fs v).Sublist (l.shownLines g o fs w) := by
  rw [shownLines_eq, shownLines_eq]
  exact filterMap_sublist_filterMap (fun _ _ => Event.consoleLine?_mono h) _

/-- The text that the console is written. -/
def shownText (v : Nat) : String := (Sink.console v).render (l.toldRun g o fs v).events

/-- The lines that the console shows of a run are among those that it shows at any higher
verbosity, in the same order. This holds of what the sink writes and of the lines that its text
has, in case that a name or a path breaks over several. The lines on failed writes are the same at
every verbosity, and all that is shown at verbosity zero. -/
theorem console_shows_more :
    (∀ v w : Nat, v ≤ w →
      (l.shownLines g o fs v).Sublist (l.shownLines g o fs w) ∧
      (Text.lines (l.shownText g o fs v)).Sublist (Text.lines (l.shownText g o fs w))) ∧
    (∀ v w : Nat, l.failureLines g o fs v = l.failureLines g o fs w) ∧
    ∀ v : Nat, l.shownLines g o fs 0 = l.failureLines g o fs v := by
  refine ⟨fun v w h => ⟨l.shownLines_sublist g o fs h, ?_⟩, fun v w => ?_,
    fun v => (l.failureLines_eq g o fs v).symm⟩
  · have hlines (n : Nat) : l.shownText g o fs n = Text.unlines (l.shownLines g o fs n) := rfl
    rw [hlines, hlines, Text.lines_unlines_eq_flatMap, Text.lines_unlines_eq_flatMap]
    exact (l.shownLines_sublist g o fs h).flatMap _
  · rw [failureLines_eq, failureLines_eq]

def rideAndFare : Graph :=
  { Graph.empty "Trips" with
    entities := [⟨⟨"ride"⟩, "Ride", .guid, []⟩, ⟨⟨"fare"⟩, "Fare", .guid, []⟩] }

/-- Files in memory among which that of one entity cannot be written. -/
def barredRide : Faulty MemoryFiles :=
  ⟨.empty, fun _ => none, fun p =>
    if p.text = "out/Domain/Entities/Ride.cs" then some (.permissionDenied p) else none⟩

theorem console_shows_more_of_barredRide :
    let o : GenerateOptions := ⟨⟨"out"⟩, false, none, true⟩
    let failure := "error: failed to write /Domain/Entities/Ride.cs: " ++
      "Permission denied: out/Domain/Entities/Ride.cs"
    0 ≤ 1 ∧ csharp.shownLines rideAndFare o barredRide 0 = [failure] ∧
      csharp.shownLines rideAndFare o barredRide 1 =
        ["compiling 'Trips' (2 nodes)", "validated: 0 error(s), 0 warning(s)", failure,
          "  wrote /Domain/Entities/Fare.cs"] ∧
      (csharp.shownLines rideAndFare o barredRide 0).Sublist
        (csharp.shownLines rideAndFare o barredRide 1) := by
  intro o failure
  have hle : 0 ≤ 1 := Nat.zero_le 1
  have hmore := (console_shows_more csharp rideAndFare o barredRide).1 0 1 hle
  exact ⟨hle, by decide, by decide +kernel, hmore.1⟩

end Language

end Blueprint
