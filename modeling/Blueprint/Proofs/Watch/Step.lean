import Blueprint.Watch.Run
import Mathlib.Data.List.Basic

/-!
# Steps of a watch

`WatchStep` says all that one action can do to a watch: a write changes what is around it, and every
other action takes the watch on where its stage and what it read allow it, or leaves it as it is.
What holds of whole runs is proved from these cases alone.
-/

namespace Blueprint

/-- Whether an action is the editor's. -/
def WatchAction.isWrite : WatchAction → Bool
  | .write _ => true
  | _ => false

variable {σ : Type}

/-- What an action reads of the snapshot, if it does. -/
def WatchState.read? (s : WatchState σ) : WatchAction → Option (Except SystemFault String)
  | .proceed =>
    match s.stage with
    | .opening => some s.content
    | .checking => some s.content
    | .regenerating => some s.content
    | _ => none
  | _ => none

namespace Watch

/-- The digest of what was read, unless nothing could be. -/
def digest? : Except SystemFault String → Option String
  | .ok text => some (contentHash text)
  | .error _ => none

variable [FileSystem σ] (w : Watch)

theorem run_concat (s : WatchState σ) (actions : List WatchAction) (a : WatchAction) :
    w.run s (actions ++ [a]) = w.act (w.run s actions) a := List.foldl_concat ..

/-- The event that ends a generation from what was read. -/
def outcomeOf (read : Except SystemFault String) (files : σ) : WatchEvent :=
  match read with
  | .error e => .error s!"{w.snapshot.text}: {e.text}"
  | .ok text => report (w.process text files).outcome

/-- A generation that starts from a state and goes on to a stage: the snapshot and the changes of
it stay, the digest of what was read is kept, and two events are told. -/
structure Generates (s : WatchState σ) (stage : WatchStage) (s' : WatchState σ) : Prop where
  stage : s'.stage = stage
  content : s'.content = s.content
  unnoticed : s'.unnoticed = s.unnoticed
  pending : s'.pending = s.pending
  processed : s'.processed = digest? s.content
  events : s'.events = s.events ++ [.generateStarted, w.outcomeOf s.content s.files]

theorem generates_generate (s : WatchState σ) (stage : WatchStage) :
    w.Generates s stage { w.generate s with stage := stage } := by
  rw [generate]
  split <;> rename_i hread
  · exact ⟨rfl, rfl, rfl, rfl, by rw [hread]; rfl, by rw [hread]; rfl⟩
  · exact ⟨rfl, rfl, rfl, rfl, by rw [hread]; rfl, by rw [hread]; rfl⟩

end Watch

/-- The cases of a step. -/
inductive WatchStep [FileSystem σ] (w : Watch) (s : WatchState σ) :
    WatchAction → WatchState σ → Prop where
  | write (content : Except SystemFault String) : WatchStep w s (.write content)
      { s with
        content := content
        unnoticed := if s.stage.registered then s.unnoticed + 1 else s.unnoticed }
  | none {a : WatchAction} (hwrite : a.isWrite = false) (hread : s.read? a = none) :
      WatchStep w s a s
  | generate {s' : WatchState σ} (hstage : s.stage = .opening)
      (h : w.Generates s .registering s') : WatchStep w s .proceed s'
  | register (hstage : s.stage = .registering) :
      WatchStep w s .proceed { s with stage := .waiting }
  | refuse (hstage : s.stage = .registering) : WatchStep w s .refuse { s with stage := .refused }
  | notice (hstage : s.stage = .waiting) (h : 0 < s.unnoticed) :
      WatchStep w s .notice { s with unnoticed := s.unnoticed - 1, pending := true }
  | settle (hstage : s.stage = .waiting) (h : s.pending = true) :
      WatchStep w s .settle { s with stage := .checking, pending := false }
  | unreadable (hstage : s.stage = .checking) {fault : SystemFault}
      (hread : s.content = .error fault) : WatchStep w s .proceed { s with stage := .waiting }
  | unchanged (hstage : s.stage = .checking) {text : String} (hread : s.content = .ok text)
      (hsame : s.processed = some (contentHash text)) :
      WatchStep w s .proceed { s with stage := .waiting }
  | changed (hstage : s.stage = .checking) {text : String} (hread : s.content = .ok text)
      (hother : s.processed ≠ some (contentHash text)) :
      WatchStep w s .proceed
        { s with
          stage := .regenerating
          events := s.events ++ [.snapshotChanged w.snapshot.text] }
  | regenerate {s' : WatchState σ} (hstage : s.stage = .regenerating)
      (h : w.Generates s .waiting s') : WatchStep w s .proceed s'
  | stop (hstage : s.stage = .waiting) :
      WatchStep w s .stop { s with stage := .stopped, events := s.events ++ [.shutdown] }

namespace Watch

variable [FileSystem σ] (w : Watch) (s : WatchState σ)

theorem step_look (hs : s.stage = .checking) : WatchStep w s .proceed (w.look s) := by
  rw [look]
  split
  · exact .unreadable hs ‹_›
  · split_ifs with hsame
    · exact .unchanged hs ‹_› hsame
    · exact .changed hs ‹_› hsame

theorem step_proceed : WatchStep w s .proceed (w.proceed s) := by
  rw [proceed]
  split <;> rename_i hs
  · exact .generate hs (w.generates_generate s .registering)
  · exact .register hs
  · exact w.step_look s hs
  · exact .regenerate hs (w.generates_generate s .waiting)
  all_goals exact .none rfl (by simp [WatchState.read?, hs])

theorem step_act (a : WatchAction) : WatchStep w s a (w.act s a) := by
  cases a with
  | write content => exact .write content
  | proceed => exact w.step_proceed s
  | refuse =>
      rw [act]
      split_ifs with hs
      · exact .refuse hs
      · exact .none rfl rfl
  | notice =>
      rw [act]
      split_ifs with hs
      · exact .notice hs.1 hs.2
      · exact .none rfl rfl
  | settle =>
      rw [act]
      split_ifs with hs
      · exact .settle hs.1 hs.2
      · exact .none rfl rfl
  | stop =>
      rw [act]
      split_ifs with hs
      · exact .stop hs
      · exact .none rfl rfl

end Watch

end Blueprint
