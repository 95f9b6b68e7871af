import Blueprint.Event
import Blueprint.Proofs.Json.Line
import Mathlib.Data.List.Forall2

/-!
# Events are read back

The JSON sink writes one line for every event. From a line the event is recovered: its name says
which event it is, and each of its fields stands under a key of its own.
-/

namespace Blueprint

open Json

/-! ### Reading an event -/

def Severity.named? : String → Option Severity
  | "warning" => some .warning
  | "error" => some .error
  | _ => none

@[simp] theorem Severity.named?_name (s : Severity) : named? s.name = some s := by cases s <;> rfl

namespace Json.Value

def count? : Value → Option Nat
  | .number (.nat n) => some n.toNat
  | _ => none

def stringAt? (key : String) (v : Value) : Option String := (v.member? key).bind string?

def countAt? (key : String) (v : Value) : Option Nat := (v.member? key).bind count?

theorem count?_nat {n : Nat} (h : n < UInt64.size) : (nat n).count? = some n := by
  rw [nat, count?, UInt64.toNat_ofNat_of_lt' h]

end Json.Value

namespace Event

/-- The event of an object. -/
def ofJson? (v : Value) : Option Event := do
  match ← v.stringAt? "event" with
  | "start" => return .started (← v.stringAt? "graph") (← v.countAt? "node_count")
  | "finding" =>
    return .finding (← v.stringAt? "node_id") (← Severity.named? (← v.stringAt? "severity"))
      (← v.stringAt? "message")
  | "validated" => return .validated (← v.countAt? "errors") (← v.countAt? "warnings")
  | "file_emitted" => return .emitted (← v.countAt? "index") (← v.stringAt? "path")
  | "file_written" => return .written (← v.countAt? "index") (← v.stringAt? "path")
  | "file_unchanged" => return .unchanged (← v.countAt? "index") (← v.stringAt? "path")
  | "file_error" =>
    return .fileFailed (← v.countAt? "index") (← v.stringAt? "path") (← v.stringAt? "error")
  | "complete" =>
    return .completed (← v.countAt? "emitted") (← v.countAt? "written") (← v.countAt? "unchanged")
      (← v.countAt? "errors")
  | _ => none

def counts : Event → List Nat
  | .started _ n => [n]
  | .finding .. => []
  | .validated errors warnings => [errors, warnings]
  | .emitted i _ => [i]
  | .written i _ => [i]
  | .unchanged i _ => [i]
  | .fileFailed i _ _ => [i]
  | .completed files wrote kept errors => [files, wrote, kept, errors]

/-- Counts are machine words. -/
def Fits (e : Event) : Prop := ∀ n ∈ e.counts, n < UInt64.size

instance (e : Event) : Decidable e.Fits :=
  inferInstanceAs (Decidable (∀ n ∈ e.counts, n < UInt64.size))

variable (command : String) (e : Event)

theorem member?_toJson (key : String) : (e.toJson command).member? key =
    ((e.members.reverse ++
      [("command", Value.string command), ("event", Value.string e.name)]).find?
        (·.1 == key)).map (·.2) := by
  rw [toJson, Value.member?_record, List.reverse_cons, List.reverse_cons, List.append_assoc]
  rfl

theorem ofJson?_toJson (h : e.Fits) : ofJson? (e.toJson command) = some e := by
  unfold Fits at h
  cases e <;> simp only [counts, List.forall_mem_cons] at h
  all_goals
    simp [ofJson?, Value.stringAt?, Value.countAt?, Value.string?, Value.count?_nat, member?_toJson,
      members, name, h]

/-! ### Lines of events -/

theorem plain_members (depth : Nat) : ∀ m ∈ e.members, Plain depth m.2 := by
  cases e <;> simp [members, Plain.string, plain_nat]

theorem normalMembers_members : normalMembers e.members = e.members := by cases e <;> rfl

theorem toJson_reads_back : Text.IsLine (e.toJson command).compact ∧
    Value.parse (e.toJson command).compact = .ok (e.toJson command) := by
  have hplain : ∀ m ∈ ("event", Value.string e.name) :: ("command", Value.string command) ::
      e.members, Plain (depthLimit - 1) m.2 := by
    rw [List.forall_mem_cons, List.forall_mem_cons]
    exact ⟨.string _ _, .string _ _, e.plain_members _⟩
  have hread := record_reads_back hplain
  rwa [normalMembers, normalMembers, normalMembers_members] at hread

/-- The line is the text of an object that has the command, and the event is recovered from it. -/
def ReadsBackFrom (command line : String) (e : Event) : Prop :=
  ∃ ms, Value.parse line = .ok (.object ms) ∧
    (Value.object ms).stringAt? "command" = some command ∧
    (Value.object ms).stringAt? "event" = some e.name ∧
    ofJson? (.object ms) = some e

theorem readsBackFrom_toJson (h : e.Fits) :
    e.ReadsBackFrom command (e.toJson command).compact := by
  refine ⟨_, (e.toJson_reads_back command).2, ?_, ?_, e.ofJson?_toJson command h⟩
  · change (e.toJson command).stringAt? "command" = _
    cases e <;> simp [Value.stringAt?, member?_toJson, members, Value.string?]
  · change (e.toJson command).stringAt? "event" = _
    cases e <;> simp [Value.stringAt?, member?_toJson, members, Value.string?]

end Event

/-! ### Texts of events -/

namespace Sink

theorem render_json (command : String) (events : List Event) : (json command).render events =
    Text.unlines (events.map fun e => (e.toJson command).compact) := by
  rw [render, ← List.filterMap_eq_map']
  rfl

theorem lines_render_json (command : String) (events : List Event) :
    Text.lines ((json command).render events) =
      events.map fun e => (e.toJson command).compact := by
  rw [render_json]
  apply Text.lines_unlines
  rw [List.forall_mem_map]
  exact fun e _ => (e.toJson_reads_back command).1

/-- The JSON sink writes exactly one line for every event, in order, and ends it. Whatever strings
and counts the events have, each is recovered from its line, beside the command. -/
theorem json_lines_read_back (command : String) {events : List Event}
    (h : ∀ e ∈ events, e.Fits) :
    let text := (json command).render events
    Text.unlines (Text.lines text) = text ∧
      List.Forall₂ (Event.ReadsBackFrom command) (Text.lines text) events := by
  intro text
  have hlines : Text.lines text = events.map fun e => (e.toJson command).compact :=
    lines_render_json command events
  constructor
  · rw [hlines, ← render_json]
  · rw [hlines, List.forall₂_map_left_iff, List.forall₂_same]
    exact fun e he => e.readsBackFrom_toJson command (h e he)

/-- Events with line ends, quotes and control characters in their strings. -/
def unrulyEvents : List Event :=
  [.started "Ride\n\"Sharing\"" 18446744073709551615, .finding "vo-1\r" .error "a\\b\x00\n\n",
    .fileFailed 2 "/Domain/\t.cs" "refused\r\n", .completed 3 1 1 1]

theorem json_lines_read_back_of_unruly : (∀ e ∈ unrulyEvents, e.Fits) ∧
    (Text.lines ((json "generate").render unrulyEvents)).length = 4 ∧
    List.Forall₂ (Event.ReadsBackFrom "generate")
      (Text.lines ((json "generate").render unrulyEvents)) unrulyEvents := by
  have hfits : ∀ e ∈ unrulyEvents, e.Fits := by decide
  have hread := (json_lines_read_back "generate" hfits).2
  exact ⟨hfits, hread.length_eq, hread⟩

end Sink

end Blueprint
