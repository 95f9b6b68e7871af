import Blueprint.Failure
import Blueprint.Graph.Finding
import Blueprint.Terminal.Panel

/-!
# Blocks

The parts that the output of commands is made of: a header with labelled values, the summary of a
result, a framed error and the findings on one block of a graph.
-/

namespace Blueprint.Terminal

structure Header where
  icon : Icon
  title : String
  items : List (String × String)

def Header.render (h : Header) (look : Look) : String :=
  Text.unlines ((h.icon.render look ++ " " ++ paintBold look.ink .info h.title) ::
    h.items.map fun (label, value) => paint look.ink .dim (label ++ ":") ++ " " ++ value)

inductive Outcome where
  | success
  | mixed
  | failed
  deriving DecidableEq, Inhabited

namespace Outcome

def tone : Outcome → Tone
  | .success => .success
  | .mixed => .warning
  | .failed => .error

def icon : Outcome → Icon
  | .success => .success
  | .mixed => .warning
  | .failed => .error

end Outcome

structure Summary where
  outcome : Outcome
  title : String
  stats : List (String × Nat)
  warnings : List String
  next : Option String

def Summary.panel (s : Summary) (look : Look) : Panel :=
  let title := s.outcome.icon.render look ++ " " ++ paintBold look.ink s.outcome.tone s.title
  let p := (Panel.titled title s.outcome.tone).addEmpty
  let p := s.stats.foldl (fun p (label, n) => p.add s!"{n} {label}") p
  let p := if s.warnings.isEmpty then p else
    s.warnings.foldl (fun p w => p.add (Icon.warning.render look ++ " " ++ w)) p.addEmpty
  match s.next with
  | none => p
  | some next =>
    p.addEmpty.add (Icon.arrow.render look ++ " " ++ paint look.ink .dim "Next:" ++ " " ++ next)

def Summary.render (s : Summary) (look : Look) : String := (s.panel look).render look

structure ErrorBlock where
  message : String
  location : Option String
  fix : Option String

def ErrorBlock.panel (e : ErrorBlock) (look : Look) : Panel :=
  let p := Panel.titled (Icon.error.render look ++ " ERROR") .error
  let p := match e.location with
    | some l => p.add l
    | none => p
  let p := p.addEmpty.add e.message
  match e.fix with
  | some fix => p.addEmpty.add ("FIX: " ++ fix)
  | none => p

def ErrorBlock.render (e : ErrorBlock) (look : Look) : String := (e.panel look).render look

structure FindingGroup where
  heading : String
  node : String
  findings : List (Severity × String)
  deriving DecidableEq

def severityIcon : Severity → Icon
  | .error => .error
  | .warning => .warning

def FindingGroup.render (g : FindingGroup) (verbose : Bool) (look : Look) : String :=
  let id := if verbose then " " ++ paint look.ink .dim ("(" ++ g.node ++ ")") else ""
  Text.unlines ((paintBold look.ink .info g.heading ++ id) ::
    g.findings.map fun (s, message) => "  " ++ (severityIcon s).render look ++ " " ++ message)

/-- How a failure is explained to the reader. -/
def failureBlock : Failure → ErrorBlock
  | .invalidSnapshot message =>
    ⟨message, some "snapshot", some "The snapshot must be a JSON export of a domain graph."⟩
  | .unnamedSnapshot =>
    ⟨"snapshot is missing meta.name", some "snapshot",
      some "Add \"meta\": \x7b \"name\": \"...\", \"version\": 1 \x7d"⟩
  | .snapshotNotFound path =>
    ⟨s!"snapshot not found: {path.text}", none,
      some "Run `archlab starter --out model.json` to create one."⟩
  | .config file message => ⟨message, some file.text, some "Fix the TOML and try again."⟩
  | .pathEscape path root =>
    ⟨s!"generated path '{path}' would be written outside '{root.text}'", none,
      some "Rename the node so its file name stays inside the output directory."⟩
  | .projectNotFound name =>
    ⟨s!"project '{name}' not found", none,
      some "Run `archlab project list` to see stored projects."⟩
  | .store (.corrupted name message) =>
    ⟨s!"project '{name}' is corrupted: {message}", none,
      some s!"Re-save it, or run `archlab project delete {name}`."⟩
  | f => ⟨f.message, none, none⟩

end Blueprint.Terminal
