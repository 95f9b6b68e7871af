import Blueprint.Output.FileSystem
import Blueprint.Source.File

/-!
# Output plans

A plan says what writing generated files below a root would change. Of the files with one path the
last stands in the plan, at the place of the first.
-/

namespace Blueprint

/-!
### Output paths

The path of a generated file is meant below the output directory, whatever separators it begins
with. It resolves when no component leads upwards and at least one is a name.
-/

namespace Output

/-- The path of a generated file without the separators in front. -/
def relative (generated : String) : Path :=
  ⟨String.ofList (generated.toList.dropWhile fun c => c = '/' || c = '\\')⟩

/-- The names that a list of components goes down, unless it leads elsewhere. -/
def descent? : List Component → Option (List String)
  | [] => some []
  | .current :: rest => descent? rest
  | .name s :: rest => (descent? rest).map (s :: ·)
  | _ :: _ => none

def resolve (root : Path) (generated : String) : Except Failure Path :=
  match descent? (relative generated).components with
  | some (name :: names) => .ok ((name :: names).foldl Path.push root)
  | _ => .error (.pathEscape generated root)

end Output

/-! ### Plans -/

inductive Change where
  | new
  | modified
  | unchanged
  deriving DecidableEq, Inhabited

namespace Change

def name : Change → String
  | .new => "new"
  | .modified => "modified"
  | .unchanged => "unchanged"

/-- Contents are compared by their digests. -/
def ofExisting (content : String) : Option String → Change
  | none => .new
  | some old => if contentHash old = contentHash content then .unchanged else .modified

end Change

structure PlannedFile where
  file : SourceFile
  target : Path
  change : Change
  existing : Option String
  deriving DecidableEq, Inhabited

namespace PlannedFile

def path (f : PlannedFile) : String := f.file.path

end PlannedFile

structure Plan where
  root : Path
  files : List PlannedFile
  deriving DecidableEq, Inhabited

namespace Plan

variable {σ : Type} [FileSystem σ]

def empty : Plan := ⟨⟨""⟩, []⟩

def count (p : Plan) (c : Change) : Nat := p.files.countP (·.change == c)

def hasChanges (p : Plan) : Bool := p.files.any (·.change != .unchanged)

def find? (p : Plan) (path : String) : Option PlannedFile := p.files.find? (·.path == path)

/-- What is at a path now. -/
def current (fs : σ) (target : Path) : Except Failure (Option String) :=
  if FileSystem.present fs target then ((FileSystem.read fs target).map some).mapError .file
  else .ok none

def planFile (fs : σ) (root : Path) (f : SourceFile) : Except Failure PlannedFile := do
  let target ← Output.resolve root f.path
  let existing ← current fs target
  return ⟨f, target, .ofExisting f.content existing, existing⟩

/-- Takes the place of the first file with the same path, or the last place. -/
def place (f : PlannedFile) : List PlannedFile → List PlannedFile
  | [] => [f]
  | g :: rest => if g.path = f.path then f :: rest else g :: place f rest

def make (fs : σ) (root : Path) (files : List SourceFile) : Except Failure Plan := do
  let planned ← files.mapM (planFile fs root)
  return ⟨root, planned.foldl (fun fs f => place f fs) []⟩

end Plan

end Blueprint
