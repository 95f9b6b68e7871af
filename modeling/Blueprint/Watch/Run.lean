import Blueprint.Output.Generate
import Blueprint.Snapshot.Text

/-!
# Watching a snapshot

A watch generates once, registers for changes of the snapshot file, and then generates again when a
change has settled and the text differs from the one it processed last. It is a machine that goes
from one access of the file to the next. What happens around it comes as actions: writes of an
editor, which are noticed only after the registration, a registration that is refused, and the
moments at which the watch goes on. A text is told from another by its digest.
-/

namespace Blueprint

/-!
### Watch events

What a watch reports: its start, every change of the snapshot that it noticed, the generations
that follow, and its end.
-/

open Json

inductive WatchEvent where
  | watchStarted (snapshot outDir : String)
  | snapshotChanged (path : String)
  | generateStarted
  | generateComplete (errors warnings written unchanged : Nat) (blocked : Bool)
  | error (message : String)
  | shutdown
  deriving DecidableEq, Inhabited

namespace WatchEvent

def name : WatchEvent → String
  | .watchStarted .. => "watch_started"
  | .snapshotChanged .. => "snapshot_changed"
  | .generateStarted => "generate_started"
  | .generateComplete .. => "generate_complete"
  | .error .. => "error"
  | .shutdown => "shutdown"

def members : WatchEvent → List Member
  | .watchStarted snapshot outDir => [("snapshot", .string snapshot), ("out_dir", .string outDir)]
  | .snapshotChanged path => [("path", .string path)]
  | .generateStarted => []
  | .generateComplete errors warnings written unchanged blocked =>
    [("errors", .nat errors), ("warnings", .nat warnings), ("written", .nat written),
      ("unchanged", .nat unchanged), ("blocked", .bool blocked)]
  | .error message => [("message", .string message)]
  | .shutdown => []

def toJson (e : WatchEvent) : Value :=
  .record (("event", .string e.name) :: ("command", .string "watch") :: e.members)

end WatchEvent

/-! ### Watches -/

/-- What is watched, and how its text is generated. -/
structure Watch where
  snapshot : Path
  language : Language
  options : GenerateOptions
  details : Bool

/-- What a watch does next. It ends when it is stopped, or when its registration was refused. -/
inductive WatchStage where
  | opening
  | registering
  | refused
  | waiting
  | checking
  | regenerating
  | stopped
  deriving DecidableEq, Inhabited

/-- A watch under way, and what is around it: the text that reading the snapshot gives and the
changes of it that were not noticed yet. -/
structure WatchState (σ : Type) where
  stage : WatchStage
  content : Except SystemFault String
  unnoticed : Nat
  pending : Bool
  processed : Option String
  files : σ
  events : List WatchEvent
  compiled : List Event

inductive WatchAction where
  | write (content : Except SystemFault String)
  | refuse
  | notice
  | settle
  | proceed
  | stop

namespace WatchStage

/-- Whether changes of the file are told to the watch. -/
def registered : WatchStage → Bool
  | .opening => false
  | .registering => false
  | .refused => false
  | _ => true

end WatchStage

namespace Watch

variable {σ : Type} [FileSystem σ] (w : Watch)

def start (content : Except SystemFault String) (files : σ) : WatchState σ where
  stage := .opening
  content := content
  unnoticed := 0
  pending := false
  processed := none
  files := files
  events := [.watchStarted w.snapshot.text w.options.out.text]
  compiled := []

def report (outcome : Except Failure GenerateResult) : WatchEvent :=
  match outcome with
  | .ok r =>
    .generateComplete r.report.errors r.report.warnings r.write.written.length
      r.write.unchanged.length r.blocked
  | .error e => .error e.message

/-- Imports a text and generates from it. -/
def process (text : String) (files : σ) : Generated σ :=
  match Snapshot.load text with
  | .ok g => w.language.generate g w.options w.details files
  | .error e => ⟨.error e, [], files⟩

/-- One generation, from reading the file to its report. -/
def generate (s : WatchState σ) : WatchState σ :=
  match s.content with
  | .error e =>
    { s with
      processed := none
      events := s.events ++ [.generateStarted, .error s!"{w.snapshot.text}: {e.text}"] }
  | .ok text =>
    let g := w.process text s.files
    { s with
      processed := some (contentHash text)
      files := g.files
      events := s.events ++ [.generateStarted, report g.outcome]
      compiled := s.compiled ++ g.events }

/-- Reads the file after a change has settled. -/
def look (s : WatchState σ) : WatchState σ :=
  match s.content with
  | .error _ => { s with stage := .waiting }
  | .ok text =>
    if s.processed = some (contentHash text) then { s with stage := .waiting }
    else
      { s with
        stage := .regenerating
        events := s.events ++ [.snapshotChanged w.snapshot.text] }

/-- Goes on to the next access of the file. -/
def proceed (s : WatchState σ) : WatchState σ :=
  match s.stage with
  | .opening => { w.generate s with stage := .registering }
  | .registering => { s with stage := .waiting }
  | .checking => w.look s
  | .regenerating => { w.generate s with stage := .waiting }
  | .waiting => s
  | .refused => s
  | .stopped => s

/-- What an action does; one that does not apply to the stage does nothing. -/
def act (s : WatchState σ) : WatchAction → WatchState σ
  | .write content =>
    let seen := if s.stage.registered then s.unnoticed + 1 else s.unnoticed
    { s with content := content, unnoticed := seen }
  | .refuse => if s.stage = .registering then { s with stage := .refused } else s
  | .notice =>
    if s.stage = .waiting ∧ 0 < s.unnoticed then
      { s with unnoticed := s.unnoticed - 1, pending := true }
    else s
  | .settle =>
    if s.stage = .waiting ∧ s.pending then { s with stage := .checking, pending := false } else s
  | .proceed => w.proceed s
  | .stop =>
    if s.stage = .waiting then { s with stage := .stopped, events := s.events ++ [.shutdown] }
    else s

def run (s : WatchState σ) (actions : List WatchAction) : WatchState σ := actions.foldl w.act s

/-- The actions of an editor that writes a text and waits until the watch has dealt with it. -/
def edit (text : String) : List WatchAction :=
  [.write (.ok text), .notice, .settle, .proceed, .proceed]

/-- The actions of a watch from its start to its end, with the texts that are written meanwhile. -/
def session (texts : List String) : List WatchAction :=
  [.proceed, .proceed] ++ texts.flatMap edit ++ [.stop]

end Watch

end Blueprint
