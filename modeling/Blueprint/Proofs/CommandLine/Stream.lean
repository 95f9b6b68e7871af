import Blueprint.CommandLine.Run
import Blueprint.Proofs.Event.Recovery
import Blueprint.Proofs.Snapshot.RoundTrip

/-!
# Streams of events

With JSON output a command writes a stream: ended lines, each the text of one object that names its
event and its command. Two commands can show a snapshot in its place, and the error that ends a
failed run is told on a line of its own.
-/

namespace Blueprint.CommandLine

open Json

/-! ### Streams -/

/-- The line is the text of an object that has the keys. -/
def Carries (keys : List String) (line : String) : Prop :=
  ∃ ms, Value.parse line = .ok (.object ms) ∧
    ∀ key ∈ keys, ((Value.object ms).member? key).isSome

theorem carries_record {keys : List String} {ms : List Member}
    (hms : ∀ m ∈ ms, Plain (depthLimit - 1) m.2) (hkeys : ∀ key ∈ keys, key ∈ ms.map Prod.fst) :
    Text.IsLine (Value.record ms).compact ∧ Carries keys (Value.record ms).compact := by
  obtain ⟨hline, hread⟩ := record_reads_back hms
  refine ⟨hline, _, hread, fun key hkey => ?_⟩
  have hnormal : (normalMembers ms).map Prod.fst = ms.map Prod.fst := by
    rw [normalMembers_eq_map, List.map_map]
    rfl
  exact (Value.isSome_member?_record _ key).mpr (hnormal ▸ hkeys key hkey)

/-- The text consists of ended lines that all have a property. -/
def IsStream (p : String → Prop) (text : String) : Prop :=
  ∃ ls, text = Text.unlines ls ∧ ∀ l ∈ ls, Text.IsLine l ∧ p l

namespace IsStream

variable {p q : String → Prop} {text rest : String}

theorem empty : IsStream p "" := ⟨[], rfl, by simp⟩

theorem line (hline : Text.IsLine text) (h : p text) : IsStream p (text ++ "\n") :=
  ⟨[text], by simp [Text.unlines], by simpa using ⟨hline, h⟩⟩

theorem append (h : IsStream p text) (hrest : IsStream p rest) : IsStream p (text ++ rest) := by
  obtain ⟨ls, rfl, hls⟩ := h
  obtain ⟨ms, rfl, hms⟩ := hrest
  refine ⟨ls ++ ms, (Text.unlines_append ls ms).symm, ?_⟩
  rw [List.forall_mem_append]
  exact ⟨hls, hms⟩

theorem join_map {α : Type} (as : List α) {f : α → String} (h : ∀ a, IsStream p (f a)) :
    IsStream p (String.join (as.map f)) := by
  induction as with
  | nil => exact empty
  | cons a as ih =>
      rw [List.map_cons, String.join_cons]
      exact (h a).append ih

theorem mono (h : IsStream p text) (hpq : ∀ l, p l → q l) : IsStream q text := by
  obtain ⟨ls, htext, hls⟩ := h
  exact ⟨ls, htext, fun l hl => ⟨(hls l hl).1, hpq l (hls l hl).2⟩⟩

theorem unlines_lines (h : IsStream p text) :
    Text.unlines (Text.lines text) = text ∧ ∀ l ∈ Text.lines text, p l := by
  obtain ⟨ls, rfl, hls⟩ := h
  rw [Text.lines_unlines fun l hl => (hls l hl).1]
  exact ⟨rfl, fun l hl => (hls l hl).2⟩

end IsStream

/-- The keys that stand on every line of a stream of events. -/
def eventKeys : List String := ["event", "command"]

/-- A stream of events that name their commands. -/
abbrev IsEvents (text : String) : Prop := IsStream (Carries eventKeys) text

theorem carries_event (event command : String) {ms : List Member}
    (h : ∀ m ∈ ms, Plain (depthLimit - 1) m.2) :
    let members := ("event", .string event) :: ("command", .string command) :: ms
    Text.IsLine (Value.record members).compact ∧
      Carries eventKeys (Value.record members).compact := by
  intro members
  have hplain : ∀ m ∈ members, Plain (depthLimit - 1) m.2 := by
    simpa [members, Plain.string] using h
  exact carries_record hplain (by simp [members, eventKeys])

theorem isEvents_eventLine {event command : String} {ms : List Member}
    (h : ∀ m ∈ ms, Plain (depthLimit - 1) m.2) : IsEvents (eventLine event command ms) := by
  obtain ⟨hline, hcarries⟩ := carries_event event command h
  exact .line hline hcarries

theorem isEvents_render_json (command : String) (events : List Event) :
    IsEvents ((Sink.json command).render events) := by
  refine ⟨_, Sink.render_json command events, ?_⟩
  rw [List.forall_mem_map]
  intro e _
  exact carries_event e.name command (e.plain_members _)

/-! ### Effects -/

namespace Effect

theorem isEvents_attempt {α : Type} {d : Disk} {r : Except Failure α} {next : α → Effect}
    (h : ∀ a, IsEvents (next a).out) : IsEvents (attempt d r next).out := by
  cases r with
  | error f => exact .empty
  | ok a => exact h a

theorem isEvents_after {out : String} {e : Effect} (hout : IsEvents out) (h : IsEvents e.out)
    (err : String) : IsEvents (e.after out err).out := hout.append h

end Effect

namespace Session

variable {s : Session} (d : Disk)

theorem isEvents_withLanguage {next : Language → Effect} (h : ∀ l, IsEvents (next l).out) :
    IsEvents (s.withLanguage d next).out := by
  rw [withLanguage]
  split
  · exact h _
  · exact .empty

theorem isEvents_checkEvents (snapshot : Path) (g : Graph) (r : Report) (failed : Bool) :
    IsEvents (checkEvents snapshot g r failed) := by
  refine ((isEvents_eventLine ?_).append (.join_map _ fun f => isEvents_eventLine ?_)).append
    (isEvents_eventLine ?_)
  · simp [Plain.string, plain_nat]
  · cases g.name? f.node <;> simp [NodeId.encode, Plain.string, Plain.null]
  · simp [Plain.bool, plain_nat]

theorem isEvents_diffEvents (p : Plan) : IsEvents (diffEvents p) := by
  refine (IsStream.join_map _ fun f => isEvents_eventLine ?_).append (isEvents_eventLine ?_)
  · simp [plannedMembers, Plain.string]
  · simp [plain_nat]

theorem isEvents_resultEvents (r : GenerateResult) (dryRun : Bool) :
    IsEvents (resultEvents r dryRun) := by
  rw [resultEvents]
  split
  · exact isEvents_eventLine (by simp [plain_nat])
  · refine (IsStream.join_map _ fun p => isEvents_eventLine (by simp [Plain.string])).append ?_
    split
    · exact .join_map _ fun f => isEvents_eventLine (by simp [plannedMembers, Plain.string])
    · exact .empty

theorem plain_edgeValue (depth : Nat) (e : Edge) : Plain (depth + 1) (edgeValue e) :=
  plain_record (by simp [NodeId.encode, Plain.string])

theorem plain_entryValue (depth : Nat) (e : ProjectEntry) :
    Plain (depth + 1) (s.entryValue d e) :=
  plain_record (by simp [Plain.string, plain_nat])

section Json

variable (hjson : s.ui.json = true)
include hjson

/-- What is printed instead of a text is a stream of events. -/
theorem isEvents_print {events text : String} (h : IsEvents events) :
    IsEvents (Effect.print d (if s.ui.json then events else text)).out := by
  rw [if_pos hjson]
  exact h

theorem isEvents_check (snapshot : Path) : IsEvents (s.check d snapshot).out := by
  refine Effect.isEvents_attempt fun g => ?_
  change IsEvents (if s.ui.json then _ else _)
  rw [if_pos hjson]
  exact isEvents_checkEvents snapshot g _ _

theorem isEvents_inspect (snapshot : Path) : IsEvents (s.inspect d snapshot).out := by
  refine Effect.isEvents_attempt fun g => isEvents_print d hjson (isEvents_eventLine ?_)
  have hcounts : Plain (depthLimit - 1)
      (.record (Kind.all.map fun k => (k.tag, .nat (g.count k)))) :=
    plain_record (by simp [plain_nat])
  have hedges : Plain (depthLimit - 1) (.array (g.edges.map edgeValue)) :=
    plain_list (plain_edgeValue _) g.edges
  simp [Plain.string, plain_nat, hcounts, hedges]

theorem isEvents_showFile (snapshot : Path) (path : String) :
    IsEvents (s.showFile d snapshot path).out := by
  refine isEvents_withLanguage d fun l => Effect.isEvents_attempt fun g => ?_
  dsimp only
  split
  · exact .empty
  · exact isEvents_print d hjson (isEvents_eventLine (by simp [Plain.string]))

theorem isEvents_diff (snapshot : Path) (out : Option Path) :
    IsEvents (s.diff d snapshot out).out :=
  isEvents_withLanguage d fun _ => Effect.isEvents_attempt fun _ =>
    Effect.isEvents_attempt fun p => isEvents_print d hjson (isEvents_diffEvents p)

theorem isEvents_generateFrom (l : Language) (g : Graph) (o : GenerateOptions) :
    IsEvents (s.generateFrom d l g o).out := by
  have hsink : s.sink "generate" = .json "generate" := if_pos hjson
  rw [generateFrom, hsink, hjson]
  refine Effect.isEvents_after (isEvents_render_json "generate" _) ?_ _
  split
  · exact .empty
  · exact isEvents_resultEvents _ _

theorem isEvents_generate (snapshot : Path) (out : Option Path) (dryRun strict : Bool) :
    IsEvents (s.generate d snapshot out dryRun strict).out := by
  refine isEvents_withLanguage d fun l => ?_
  dsimp only
  rw [if_pos hjson]
  exact Effect.isEvents_after .empty
    (Effect.isEvents_attempt fun g => isEvents_generateFrom d hjson l g _) _

theorem isEvents_saveProject (name : String) (snapshot : Path) :
    IsEvents (s.saveProject d name snapshot).out :=
  Effect.isEvents_attempt fun _ =>
    isEvents_print _ hjson (isEvents_eventLine (by simp [Plain.string, plain_nat]))

theorem isEvents_listProjects : IsEvents (s.listProjects d).out := by
  refine Effect.isEvents_attempt fun entries => isEvents_print d hjson (isEvents_eventLine ?_)
  have hentries : Plain (depthLimit - 1) (.array (entries.map (s.entryValue d))) :=
    plain_list (plain_entryValue d _) entries
  simp [Plain.string, plain_nat, hentries]

theorem isEvents_deleteProject (name : String) : IsEvents (s.deleteProject d name).out := by
  refine Effect.isEvents_attempt fun found => ?_
  cases found with
  | false => exact .empty
  | true =>
      exact Effect.isEvents_attempt fun _ =>
        isEvents_print _ hjson (isEvents_eventLine (by simp [Plain.string]))

theorem isEvents_starter (path : Path) : IsEvents (s.starter d (some path)).out := by
  -- Unfolded by hand, as unification would evaluate the snapshot that is written.
  simp only [starter]
  exact Effect.isEvents_attempt fun _ =>
    isEvents_print _ hjson (isEvents_eventLine (by simp [Plain.string, plain_nat]))

theorem isEvents_loadProject (name : String) (path : Path) :
    IsEvents (s.loadProject d name (some path)).out := by
  simp only [loadProject]
  exact Effect.isEvents_attempt fun _ =>
    isEvents_print _ hjson (isEvents_eventLine (by simp [Plain.string, plain_nat]))

end Json

end Session

/-! ### Tasks -/

def Task.isWatch : Task → Bool
  | .watch .. => true
  | _ => false

namespace Session

/-- The graph whose snapshot the task prints when it is given no file to write it to. -/
def printed? (s : Session) (d : Disk) : Task → Option (Except Failure Graph)
  | .starter none => some (.ok Graph.starter)
  | .loadProject name none => some (Projects.load (s.store d) name)
  | _ => none

variable {s : Session} {d : Disk} {t : Task}

theorem isEvents_perform (hjson : s.ui.json = true) (hwatch : t.isWatch = false)
    (hprinted : s.printed? d t = none) : IsEvents (s.perform d t).out := by
  cases t with
  | check snapshot => exact isEvents_check d hjson snapshot
  | generate snapshot out dryRun strict =>
      exact isEvents_generate d hjson snapshot out dryRun strict
  | diff snapshot out => exact isEvents_diff d hjson snapshot out
  | «show» snapshot path => exact isEvents_showFile d hjson snapshot path
  | inspect snapshot => exact isEvents_inspect d hjson snapshot
  | watch snapshot out => cases hwatch
  | starter out => cases out with
    | none => cases hprinted
    | some path => exact isEvents_starter d hjson path
  | saveProject name snapshot => exact isEvents_saveProject d hjson name snapshot
  | loadProject name out => cases out with
    | none => cases hprinted
    | some path => exact isEvents_loadProject d hjson name path
  | listProjects => exact isEvents_listProjects d hjson
  | deleteProject name yes => exact isEvents_deleteProject d hjson name

theorem perform_of_printed {r : Except Failure Graph} (h : s.printed? d t = some r) :
    s.perform d t = Effect.attempt d r fun g => .print d (Snapshot.write g ++ "\n") := by
  cases t with
  | starter out => cases out with
    | none => cases h; rfl
    | some path => cases h
  | loadProject name out => cases out with
    | none => cases h; rfl
    | some path => cases h
  | _ => cases h

theorem load_json {around : Surroundings} {i : Invocation} {told : String}
    (h : load around d i = .ok (s, told)) : s.ui.json = i.json := by
  obtain ⟨c, -, h⟩ := bind_eq_ok_iff.mp h
  cases h
  rfl

end Session

/-! ### Runs -/

/-- The line is the text of an object with an event, and with a command unless it tells the error
that ends a failed run. -/
def TellsEvent (code : Nat) (line : String) : Prop :=
  ∃ ms, Value.parse line = .ok (.object ms) ∧
    ((Value.object ms).member? "event").isSome ∧
    (((Value.object ms).member? "command").isSome ∨
      code = 1 ∧ (Value.object ms).member? "event" = some (.string "error"))

theorem tellsEvent_of_carries {code : Nat} {line : String} (h : Carries eventKeys line) :
    TellsEvent code line := by
  obtain ⟨ms, hread, hkeys⟩ := h
  exact ⟨ms, hread, hkeys _ (by simp [eventKeys]), .inl (hkeys _ (by simp [eventKeys]))⟩

theorem isStream_troubleReport (around : Surroundings) (t : Trouble) :
    IsStream (TellsEvent 1) (troubleReport around true t).1 := by
  have hplain : ∀ m ∈ [("event", Value.string "error"), ("message", Value.string t.message)],
      Plain (depthLimit - 1) m.2 := by simp [Plain.string]
  obtain ⟨hline, hread⟩ := record_reads_back hplain
  have hevent : (Value.record [("event", Value.string "error"),
      ("message", Value.string t.message)]).member? "event" = some (.string "error") := by
    simp [Value.member?_record]
  exact .line hline ⟨_, hread, Option.isSome_of_mem hevent, .inr ⟨rfl, hevent⟩⟩

theorem isStream_reply (around : Surroundings) {e : Effect} (h : IsEvents e.out) :
    IsStream (TellsEvent (e.reply around true).code) (e.reply around true).out := by
  have hout (code : Nat) : IsStream (TellsEvent code) e.out :=
    h.mono fun _ => tellsEvent_of_carries
  rw [Effect.reply]
  cases e.result with
  | ok code => exact hout code
  | error t => exact (hout 1).append (isStream_troubleReport around t)

section Run

variable {around : Surroundings} {d : Disk} {words : List String} {i : Invocation} {s : Session}
  {told : String}

theorem run_of_load (hread : read words = .ok i)
    (hload : Session.load around d i = .ok (s, told)) :
    run around d words = ((s.perform d i.task).after "" told).reply around i.json := by
  simp only [run, hread, hload, Effect.attempt]

theorem run_of_load_error {f : Failure} (hread : read words = .ok i)
    (hload : Session.load around d i = .error f) :
    run around d words = (Effect.fail d (.failure f)).reply around i.json := by
  simp only [run, hread, hload, Effect.attempt]

/-- With JSON output every line that is printed is an object with an event and, unless it tells the
error that ends a failed run, a command. Only a task that is given no file for its snapshot prints
the snapshot in place of such lines, and succeeds. -/
theorem json_run_tells_events (hread : read words = .ok i) (hjson : i.json = true)
    (hwatch : i.task.isWatch = false) :
    let r := run around d words
    (Text.unlines (Text.lines r.out) = r.out ∧ ∀ line ∈ Text.lines r.out, TellsEvent r.code line) ∨
      ∃ s told g, Session.load around d i = .ok (s, told) ∧ s.printed? d i.task = some (.ok g) ∧
        r.code = 0 ∧ r.out = Snapshot.write g ++ "\n" := by
  intro r
  cases hload : Session.load around d i with
  | error f =>
      have hr : r = (Effect.fail d (.failure f)).reply around true :=
        hjson ▸ run_of_load_error hread hload
      rw [hr]
      exact .inl (isStream_reply around IsStream.empty).unlines_lines
  | ok loaded =>
      obtain ⟨s, told⟩ := loaded
      have hr : r = ((s.perform d i.task).after "" told).reply around true :=
        hjson ▸ run_of_load hread hload
      have hs : s.ui.json = true := (Session.load_json hload).trans hjson
      rw [hr]
      cases hprinted : s.printed? d i.task with
      | none =>
          have hevents := Session.isEvents_perform (d := d) hs hwatch hprinted
          exact .inl (isStream_reply around
            (Effect.isEvents_after .empty hevents told)).unlines_lines
      | some p =>
          rw [Session.perform_of_printed hprinted]
          cases p with
          | ok g => exact .inr ⟨s, told, g, rfl, hprinted, rfl, String.empty_append⟩
          | error f =>
              exact .inl (isStream_reply around
                (Effect.isEvents_after .empty .empty told)).unlines_lines

end Run

/-- Surroundings with an empty environment, without a terminal. -/
def bareSurroundings : Surroundings :=
  ⟨fun _ => none, false, "12:00:00", fun _ => ⟨"", 0⟩⟩

theorem json_run_tells_events_of_starter :
    let words := ["--json", "starter", "--out", "model.json"]
    let r := run bareSurroundings (.blank []) words
    (∃ i, read words = .ok i ∧ i.json = true ∧ i.task.isWatch = false) ∧
      Text.unlines (Text.lines r.out) = r.out ∧
      ∀ line ∈ Text.lines r.out, TellsEvent r.code line := by
  intro words r
  have hread : read words = .ok ⟨true, none, 0, none, .starter (some ⟨"model.json"⟩)⟩ :=
    toOption_eq_some_iff.mp (by decide)
  refine ⟨⟨_, hread, rfl, rfl⟩, ?_⟩
  obtain h | ⟨s, told, g, -, hprinted, -⟩ := json_run_tells_events hread rfl rfl
  · exact h
  · cases hprinted

/-! ### Lines without a command -/

/-- Among the lines that are printed on an empty disk there is one without an event or a command. -/
def PrintsOther (words : List String) : Prop :=
  ∃ i, read words = .ok i ∧ i.json = true ∧ i.task.isWatch = false ∧
    ∃ line ∈ Text.lines (run bareSurroundings (.blank []) words).out, ¬ Carries eventKeys line

/-- A snapshot takes more than one line, and the first is no object. -/
theorem brace_mem_lines_write (g : Graph) : "\x7b" ∈ Text.lines (Snapshot.write g ++ "\n") := by
  have hchars : ∃ rest, (Snapshot.write g ++ "\n").toList = '{' :: '\n' :: rest := by
    rw [String.toList_append, Snapshot.write, Value.pretty, String.toList_ofList]
    exact ⟨_, rfl⟩
  obtain ⟨rest, hrest⟩ := hchars
  rw [Text.lines, hrest, Text.linesFrom, Text.linesFrom]
  · exact List.mem_cons_self
  · decide

theorem not_carries_of_parse {keys : List String} {line : String} (key : String)
    (hkey : key ∈ keys) (h : ((Value.parse line).toOption.bind (·.member? key)).isNone) :
    ¬ Carries keys line := by
  rintro ⟨ms, hread, hkeys⟩
  have hnone : (Value.object ms).member? key = none := by
    rw [hread] at h
    exact Option.isNone_iff_eq_none.mp h
  have hsome := hkeys key hkey
  rw [hnone] at hsome
  cases hsome

theorem prints_other_of_starter_and_missing :
    PrintsOther ["--json", "starter"] ∧ PrintsOther ["--json", "check", "missing.json"] := by
  constructor
  · have hread : read ["--json", "starter"] = .ok ⟨true, none, 0, none, .starter none⟩ :=
      toOption_eq_some_iff.mp (by decide)
    have hloads : (Session.load bareSurroundings (.blank [])
        ⟨true, none, 0, none, .starter none⟩).toOption.isSome := by decide +kernel
    obtain ⟨⟨s, told⟩, hload⟩ := Option.isSome_iff_exists.mp hloads
    refine ⟨_, hread, rfl, rfl, "\x7b", ?_, ?_⟩
    · rw [run_of_load hread (toOption_eq_some_iff.mp hload)]
      change _ ∈ Text.lines ("" ++ (Snapshot.write Graph.starter ++ "\n"))
      rw [String.empty_append]
      exact brace_mem_lines_write _
    · exact not_carries_of_parse "event" (by decide) (by decide)
  · have hread : read ["--json", "check", "missing.json"] =
        .ok ⟨true, none, 0, none, .check ⟨"missing.json"⟩⟩ :=
      toOption_eq_some_iff.mp (by decide +kernel)
    refine ⟨_, hread, rfl, rfl,
      "\x7b\"event\":\"error\",\"message\":\"snapshot not found: missing.json\"\x7d", ?_, ?_⟩
    · decide +kernel
    · exact not_carries_of_parse "command" (by decide) (by decide +kernel)

end Blueprint.CommandLine
