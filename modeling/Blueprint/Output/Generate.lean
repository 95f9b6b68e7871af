import Blueprint.Graph.Validation
import Blueprint.Output.Write

/-!
# Generate runs

A run compiles a graph, plans the files below the output directory and writes them. Findings of a
chosen severity block it before planning, and a dry run ends after planning. A run that fails to
plan sends no `completed` event.
-/

namespace Blueprint

/-!
### Compilation

Compiling a graph validates it and writes its sources, whatever validation finds.
-/

structure Compiled where
  report : Report
  files : List SourceFile
  deriving DecidableEq, Inhabited

namespace Compiled

/-- The first file with a path. -/
def file? (c : Compiled) (path : String) : Option SourceFile := c.files.find? (·.path == path)

end Compiled

def Language.compile (l : Language) (g : Graph) : Compiled := ⟨g.report, g.sources l⟩

namespace Event

def ofFinding (f : Finding) : Event := .finding f.node.text f.severity f.message

/-- The events of a compilation. -/
def ofCompiled (g : Graph) (c : Compiled) (details : Bool) : List Event :=
  .started g.heading.name g.nodeCount ::
    (if details then c.report.findings.map ofFinding else []) ++
    .validated c.report.errors c.report.warnings ::
    (if details then c.files.mapIdx fun i f => .emitted i f.path else [])

end Event

/-! ### Runs -/

structure GenerateOptions where
  out : Path
  dryRun : Bool
  blockOn : Option Severity
  skipUnchanged : Bool
  deriving DecidableEq

structure GenerateResult where
  report : Report
  plan : Plan
  write : WriteResult
  blocked : Bool
  duplicates : List String
  deriving DecidableEq

namespace GenerateResult

def isSuccess (r : GenerateResult) : Bool := !r.blocked && r.write.isSuccess

end GenerateResult

/-- A finished run: what it answered, the events it sent and the file system it left. -/
structure Generated (σ : Type) where
  outcome : Except Failure GenerateResult
  events : List Event
  files : σ

namespace Language

variable {σ : Type} [FileSystem σ]

def generate (l : Language) (g : Graph) (o : GenerateOptions) (details : Bool) (fs : σ) :
    Generated σ :=
  let c := l.compile g
  let compiled := Event.ofCompiled g c details
  let n := c.files.length
  let result (plan : Plan) (write : WriteResult) (blocked : Bool) : GenerateResult :=
    ⟨c.report, plan, write, blocked, repeatedPaths c.files⟩
  if o.blockOn.any c.report.fails then
    ⟨.ok (result .empty .empty true), compiled ++ [.completed n 0 0 0], fs⟩
  else
    match Plan.make fs o.out c.files with
    | .error e => ⟨.error e, compiled, fs⟩
    | .ok plan =>
      let w := if o.dryRun then ⟨.empty, [], fs⟩ else plan.write o.skipUnchanged details fs
      ⟨.ok (result plan w.result false),
        compiled ++ w.events ++ [.completed n w.result.written.length w.result.unchanged.length
          w.result.errors.length],
        w.files⟩

end Language

end Blueprint
