import Blueprint.Language.CSharp
import Blueprint.Proofs.Watch.Step
import Mathlib.Data.List.Induction

/-!
# What a watch tells

A watch tells its start and a first generation, then a change and a generation each time it reads
another text than the one that it processed last, and its end when it is stopped. `WatchTrace` is
the rule for what is told: it goes over all that the watch read, in order, and keeps what the last
generation read. Writes, the changes that are noticed and the moment of the stop come in any order.
-/

namespace Blueprint

/-- Whether an event ends a generation. -/
def WatchEvent.endsGeneration : WatchEvent → Bool
  | .generateComplete .. => true
  | .error _ => true
  | _ => false

/-- What a watch has told after its reads, in order, and what its last generation read. A change is
told only of a text that is not the one of the last generation, or after a generation that could
not read. -/
inductive WatchTrace (w : Watch) : List (Except SystemFault String) → List WatchEvent →
    Except SystemFault String → Prop where
  | first {read : Except SystemFault String} {outcome : WatchEvent}
      (hends : outcome.endsGeneration) :
      WatchTrace w [read]
        [.watchStarted w.snapshot.text w.options.out.text, .generateStarted, outcome] read
  | unreadable {reads : List (Except SystemFault String)} {events : List WatchEvent}
      {last : Except SystemFault String} (h : WatchTrace w reads events last)
      (fault : SystemFault) :
      WatchTrace w (reads ++ [.error fault]) events last
  | unchanged {reads : List (Except SystemFault String)} {events : List WatchEvent}
      {old text : String} (h : WatchTrace w reads events (.ok old))
      (hsame : contentHash old = contentHash text) :
      WatchTrace w (reads ++ [.ok text]) events (.ok old)
  | changed {reads : List (Except SystemFault String)} {events : List WatchEvent}
      {last read : Except SystemFault String} {text : String} {outcome : WatchEvent}
      (h : WatchTrace w reads events last)
      (hother : ∀ old, last = .ok old → contentHash old ≠ contentHash text)
      (hends : outcome.endsGeneration) :
      WatchTrace w (reads ++ [.ok text, read])
        (events ++ [.snapshotChanged w.snapshot.text, .generateStarted, outcome]) read

/-- The start, a generation, and changes with a generation each. A generation is told by two
events. -/
def Watch.Tells (w : Watch) (events : List WatchEvent) : Prop :=
  ∃ outcome outcomes, (∀ e ∈ outcome :: outcomes, WatchEvent.endsGeneration e) ∧
    events = [.watchStarted w.snapshot.text w.options.out.text, .generateStarted, outcome] ++
      outcomes.flatMap fun e => [.snapshotChanged w.snapshot.text, .generateStarted, e]

theorem WatchTrace.tells {w : Watch} {reads : List (Except SystemFault String)}
    {events : List WatchEvent} {last : Except SystemFault String}
    (h : WatchTrace w reads events last) : w.Tells events := by
  induction h with
  | @first _ outcome hends => exact ⟨outcome, [], by simpa using hends, rfl⟩
  | unreadable _ _ ih => exact ih
  | unchanged _ _ ih => exact ih
  | @changed _ _ _ _ _ outcome' _ _ hends ih =>
      obtain ⟨outcome, outcomes, houtcomes, hevents⟩ := ih
      refine ⟨outcome, outcomes ++ [outcome'], ?_, ?_⟩
      · rw [← List.cons_append]
        exact List.forall_mem_append.mpr ⟨houtcomes, by simpa using hends⟩
      · rw [hevents, List.flatMap_append, List.append_assoc]
        rfl

variable {σ : Type} {w : Watch}

namespace Watch

variable [FileSystem σ]

theorem endsGeneration_outcomeOf (read : Except SystemFault String) (files : σ) :
    (w.outcomeOf read files).endsGeneration := by
  cases read with
  | error e => rfl
  | ok text =>
      rw [outcomeOf]
      cases (w.process text files).outcome <;> rfl

/-- All that a watch reads over some actions. -/
def reads (w : Watch) (s : WatchState σ) : List WatchAction → List (Except SystemFault String)
  | [] => []
  | a :: actions => (s.read? a).toList ++ reads w (w.act s a) actions

theorem reads_concat (s : WatchState σ) (actions : List WatchAction) (a : WatchAction) :
    w.reads s (actions ++ [a]) = w.reads s actions ++ ((w.run s actions).read? a).toList := by
  induction actions generalizing s with
  | nil => simp only [List.nil_append, reads, List.append_nil, run, List.foldl_nil]
  | cons b actions ih =>
      rw [List.cons_append, reads, ih, reads, List.append_assoc]
      rfl

end Watch

/-! ### Runs -/

/-- A generation is over, and no other text was read since. -/
def WatchStage.caughtUp : WatchStage → Bool
  | .registering => true
  | .refused => true
  | .waiting => true
  | .checking => true
  | _ => false

/-- What a watch has told and remembers at each stage, after its reads. -/
def WatchState.Follows (w : Watch) (reads : List (Except SystemFault String))
    (s : WatchState σ) : Prop :=
  match s.stage with
  | .opening => reads = [] ∧ s.events = [.watchStarted w.snapshot.text w.options.out.text]
  | .regenerating => ∃ before text told last, reads = before ++ [.ok text] ∧
      WatchTrace w before told last ∧
      s.events = told ++ [.snapshotChanged w.snapshot.text] ∧
      ∀ old, last = .ok old → contentHash old ≠ contentHash text
  | .stopped => ∃ told last, WatchTrace w reads told last ∧ s.events = told ++ [.shutdown]
  | _ => ∃ last, WatchTrace w reads s.events last ∧ s.processed = Watch.digest? last

namespace WatchState.Follows

variable {reads : List (Except SystemFault String)} {s s' : WatchState σ}

theorem iff_of_caughtUp (hstage : s.stage.caughtUp) : s.Follows w reads ↔
    ∃ last, WatchTrace w reads s.events last ∧ s.processed = Watch.digest? last := by
  rw [Follows]
  split <;> rename_i hs
  · simp [hs, WatchStage.caughtUp] at hstage
  · simp [hs, WatchStage.caughtUp] at hstage
  · simp [hs, WatchStage.caughtUp] at hstage
  · rfl

theorem of_caughtUp (hstage : s.stage.caughtUp) {last : Except SystemFault String}
    (htrace : WatchTrace w reads s.events last) (hprocessed : s.processed = Watch.digest? last) :
    s.Follows w reads := (iff_of_caughtUp hstage).mpr ⟨last, htrace, hprocessed⟩

theorem of_read?_eq_none {a : WatchAction} (hread : s.read? a = none)
    (h : s'.Follows w reads) : s'.Follows w (reads ++ (s.read? a).toList) := by
  rw [hread, Option.toList_none, List.append_nil]
  exact h

variable [FileSystem σ]

/-- Every step keeps to the rule. -/
theorem step (h : s.Follows w reads) {a : WatchAction} (hstep : WatchStep w s a s') :
    s'.Follows w (reads ++ (s.read? a).toList) := by
  cases hstep with
  | write content => exact of_read?_eq_none rfl h
  | none _ hread => exact of_read?_eq_none hread h
  | notice _ _ => exact of_read?_eq_none rfl h
  | generate hs hnext =>
      rw [Follows, hs] at h
      obtain ⟨rfl, hevents⟩ := h
      simp only [read?, hs]
      refine of_caughtUp (by rw [hnext.stage]; rfl) ?_ hnext.processed
      rw [hnext.events, hevents]
      exact .first (w.endsGeneration_outcomeOf s.content s.files)
  | regenerate hs hnext =>
      rw [Follows, hs] at h
      obtain ⟨before, text, told, last, rfl, htrace, hevents, hother⟩ := h
      simp only [read?, hs]
      refine of_caughtUp (by rw [hnext.stage]; rfl) ?_ hnext.processed
      rw [hnext.events, hevents, List.append_assoc, List.append_assoc]
      exact htrace.changed hother (w.endsGeneration_outcomeOf s.content s.files)
  | register hs =>
      obtain ⟨last, htrace, hlast⟩ := (iff_of_caughtUp (by rw [hs]; rfl)).mp h
      exact of_read?_eq_none (by simp [read?, hs]) (of_caughtUp rfl htrace hlast)
  | refuse hs =>
      obtain ⟨last, htrace, hlast⟩ := (iff_of_caughtUp (by rw [hs]; rfl)).mp h
      exact of_read?_eq_none rfl (of_caughtUp rfl htrace hlast)
  | settle hs _ =>
      obtain ⟨last, htrace, hlast⟩ := (iff_of_caughtUp (by rw [hs]; rfl)).mp h
      exact of_read?_eq_none rfl (of_caughtUp rfl htrace hlast)
  | stop hs =>
      obtain ⟨last, htrace, -⟩ := (iff_of_caughtUp (by rw [hs]; rfl)).mp h
      exact of_read?_eq_none rfl ⟨s.events, last, htrace, rfl⟩
  | @unreadable hs fault hread =>
      obtain ⟨last, htrace, hlast⟩ := (iff_of_caughtUp (by rw [hs]; rfl)).mp h
      simp only [read?, hs, hread]
      exact of_caughtUp rfl (htrace.unreadable fault) hlast
  | unchanged hs hread hsame =>
      obtain ⟨last, htrace, hlast⟩ := (iff_of_caughtUp (by rw [hs]; rfl)).mp h
      simp only [read?, hs, hread]
      cases last with
      | error fault => cases hlast.symm.trans hsame
      | ok old =>
          have hhash := Option.some.inj (hlast.symm.trans hsame)
          exact of_caughtUp rfl (htrace.unchanged hhash) hlast
  | @changed hs text hread hother =>
      obtain ⟨last, htrace, hlast⟩ := (iff_of_caughtUp (by rw [hs]; rfl)).mp h
      simp only [read?, hs, hread]
      refine ⟨reads, text, s.events, last, rfl, htrace, rfl, fun old hold hhash => hother ?_⟩
      rw [hlast, hold, Watch.digest?, hhash]

end WatchState.Follows

namespace Watch

variable [FileSystem σ]

theorem follows_run (w : Watch) (content : Except SystemFault String) (files : σ)
    (actions : List WatchAction) : (w.run (w.start content files) actions).Follows w
    (w.reads (w.start content files) actions) := by
  induction actions using List.reverseRecOn with
  | nil => exact ⟨rfl, rfl⟩
  | append_singleton actions a ih =>
      rw [run_concat, reads_concat]
      exact ih.step (w.step_act _ a)

/-- Between two generations a watch has told its start, a generation, and changes with a generation
each, and when it is stopped it tells its end after them. A change was told only of a text with
another digest than the last generation's, or after a generation that could not read. -/
theorem events_of_run (w : Watch) (content : Except SystemFault String) (files : σ)
    (actions : List WatchAction) :
    let s := w.run (w.start content files) actions
    let reads := w.reads (w.start content files) actions
    (s.stage.caughtUp → w.Tells s.events ∧ ∃ last, WatchTrace w reads s.events last) ∧
      (s.stage = .stopped → ∃ told, w.Tells told ∧ (∃ last, WatchTrace w reads told last) ∧
        s.events = told ++ [.shutdown]) := by
  intro s reads
  have hfollows := w.follows_run content files actions
  refine ⟨fun hstage => ?_, fun hstage => ?_⟩
  · obtain ⟨last, htrace, -⟩ := (WatchState.Follows.iff_of_caughtUp hstage).mp hfollows
    exact ⟨htrace.tells, last, htrace⟩
  · rw [WatchState.Follows, hstage] at hfollows
    obtain ⟨told, last, htrace, hevents⟩ := hfollows
    exact ⟨told, htrace.tells, ⟨last, htrace⟩, hevents⟩

def modelWatch : Watch := ⟨⟨"model.json"⟩, .csharp, ⟨⟨"gen"⟩, false, none, true⟩, false⟩

/-- A snapshot appears, and then the same text is written once more: the first change is told and
the second is not. -/
theorem events_of_run_of_appearing :
    let start : WatchState MemoryFiles := modelWatch.start (.error .notFound) MemoryFiles.empty
    let actions := session ["[]", "[]"]
    (modelWatch.run start actions).stage = .stopped ∧
      modelWatch.reads start actions = [.error .notFound, .ok "[]", .ok "[]", .ok "[]"] ∧
      (modelWatch.run start actions).events.length = 7 ∧
      ∃ told, modelWatch.Tells told ∧
        (∃ last, WatchTrace modelWatch (modelWatch.reads start actions) told last) ∧
        (modelWatch.run start actions).events = told ++ [.shutdown] := by
  intro start actions
  have hstage : (modelWatch.run start actions).stage = .stopped := by decide +kernel
  exact ⟨hstage, by decide +kernel, by decide +kernel,
    (modelWatch.events_of_run _ _ actions).2 hstage⟩

end Watch

end Blueprint
