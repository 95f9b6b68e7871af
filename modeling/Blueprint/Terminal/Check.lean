import Blueprint.Graph.Validation
import Blueprint.Settings.Load
import Blueprint.Terminal.Block

/-!
# Output of checks

What was checked, the findings block by block, and the verdict. The blocks come in the order of
their first findings.
-/

namespace Blueprint.Terminal

/-- The warnings about keys that no setting has. -/
def unknownKeys (ws : List UnknownKey) (unicode : Bool) : String :=
  Text.unlines (ws.flatMap fun w =>
    let line := match w.line with
      | some n => s!":{n}"
      | none => ""
    (Icon.warning.text unicode ++ s!" Unknown config key '{w.key}' in {w.file.text}{line}") ::
      (w.suggestion.map fun s => s!"   Did you mean '{s}'?").toList)

def checkHeader (snapshot : String) (g : Graph) (failOn : Severity) : Header :=
  ⟨.check, "archlab check", [("Snapshot", snapshot),
    ("Graph", s!"{g.heading.name} ({g.nodeCount} nodes)"), ("Fail on", failOn.name)]⟩

def heading (g : Graph) (id : NodeId) : String :=
  match g.kind? id, g.name? id with
  | some k, some name => k.title ++ " " ++ name
  | _, _ => "Node " ++ id.text

/-- Adds a finding to the group of its block, or opens that group. -/
def addFinding (g : Graph) (f : Finding) : List FindingGroup → List FindingGroup
  | [] => [⟨heading g f.node, f.node.text, [(f.severity, f.message)]⟩]
  | group :: rest =>
    if group.node = f.node.text then
      { group with findings := group.findings ++ [(f.severity, f.message)] } :: rest
    else group :: addFinding g f rest

def groupFindings (g : Graph) (r : Report) : List FindingGroup :=
  r.findings.foldl (fun groups f => addFinding g f groups) []

def findingList (g : Graph) (r : Report) (verbose : Bool) (look : Look) : String :=
  "\n".intercalate ((groupFindings g r).map fun group => group.render verbose look)

def checkSummary (r : Report) (failed : Bool) : Summary :=
  let (outcome, title) :=
    if failed then (Outcome.failed, "Check FAILED")
    else if r.isClean then (.success, "Graph is valid")
    else (.mixed, "Check passed with findings")
  ⟨outcome, title, [("errors", r.errors), ("warnings", r.warnings)], [],
    some (if failed then "Fix the findings above and re-run `archlab check`"
      else "Run `archlab generate` to write the source files")⟩

end Blueprint.Terminal
