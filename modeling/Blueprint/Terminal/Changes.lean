import Blueprint.Diff.Compact
import Blueprint.Output.Generate
import Blueprint.Terminal.Block
import Blueprint.Text.Basic

/-!
# Output about planned and written files

Headers, plans, diffs and summaries of the commands that compare or write files.
-/

namespace Blueprint.Terminal

/-!
### File diffs

Two header lines, then one row for every line of either side: its number on the old side, its
number on the new side, a sign and the text. Both columns have the width of the greatest number.
-/

open Diff

/-- The line feeds at the end of a text are not shown. -/
def withoutLineEnd (s : String) : String :=
  String.ofList (s.toList.reverse.dropWhile (· = '\n')).reverse

def numberWidth (old new : String) : Nat :=
  (toString (max (max (Text.lines old).length (Text.lines new).length) 1)).length

def numberColumn (width : Nat) : Option Nat → String
  | some i => Text.padLeft width (toString (i + 1))
  | none => Text.spaces width

def tagSign : Tag → String
  | .keep => " "
  | .delete => "-"
  | .insert => "+"

def tagTone : Tag → Tone
  | .keep => .dim
  | .delete => .error
  | .insert => .success

def changeRow (width : Nat) (c : LineChange) : String :=
  numberColumn width c.old ++ " " ++ numberColumn width c.new ++ " " ++ tagSign c.tag ++ " " ++
    withoutLineEnd c.text

def fileDiff (path : String) (old : Option String) (new : String) (ink : Ink) : String :=
  let path := String.ofList (path.toList.dropWhile (· = '/'))
  let before := old.getD ""
  let width := numberWidth before new
  let above := if old.isSome then "--- a/" ++ path else "--- /dev/null"
  Text.unlines ([paint ink .info above, paint ink .info ("+++ b/" ++ path)] ++
    (changes before new).map fun c => paint ink (tagTone c.tag) (changeRow width c))

/-! ### Plans and runs -/

def diffHeader (snapshot : String) (out : Path) : Header :=
  ⟨.diff, "archlab diff", [("Snapshot", snapshot), ("Output", out.text)]⟩

/-- The diffs of all files that would change. -/
def planDiffs (p : Plan) (ink : Ink) : String :=
  "\n".intercalate ((p.files.filter (·.change != .unchanged)).map fun f =>
    fileDiff f.path f.existing f.file.content ink)

def diffSummary (p : Plan) (look : Look) : String :=
  let panel := (Panel.titled (Icon.diff.render look ++ " Diff Summary") .info).addEmpty
  let count (panel : Panel) (c : Change) : Panel := panel.add s!"{p.count c} {c.name}"
  (([Change.new, .modified, .unchanged].foldl count panel)).render look

def generateHeader (snapshot : String) (out : Path) (language : String) (dryRun : Bool) : Header :=
  ⟨.generate, "archlab generate",
    [("Snapshot", snapshot), ("Output", out.text), ("Language", language)] ++
      if dryRun then [("Mode", "dry run (nothing is written)")] else []⟩

def changeMark : Change → Styled
  | .new => ⟨"+ new     ", .success, false⟩
  | .modified => ⟨"~ modified", .warning, false⟩
  | .unchanged => ⟨"  same    ", .dim, false⟩

def planList (p : Plan) (ink : Ink) : String :=
  Text.unlines (p.files.map fun f =>
    "  " ++ (changeMark f.change).render ink ++ " " ++ f.target.text)

def generateOutcome (r : GenerateResult) (dryRun : Bool) : Outcome × String :=
  if r.blocked then (.failed, "Generate blocked by findings")
  else if !r.write.isSuccess then (.failed, "Generate finished with write errors")
  else if dryRun then (.success, "Dry run complete")
  else if !r.duplicates.isEmpty || !r.report.isClean then
    (.mixed, "Generate complete with warnings")
  else (.success, "Generate complete")

def generateStats (r : GenerateResult) (dryRun : Bool) : List (String × Nat) :=
  if r.blocked then [("errors", r.report.errors), ("warnings", r.report.warnings)]
  else if dryRun then
    [("new", r.plan.count .new), ("modified", r.plan.count .modified),
      ("unchanged", r.plan.count .unchanged)]
  else
    [("written", r.write.written.length), ("unchanged", r.write.unchanged.length)] ++
      if r.write.errors.isEmpty then [] else [("failed", r.write.errors.length)]

def generateWarnings (r : GenerateResult) : List String :=
  (if r.report.isClean then [] else
    [s!"{r.report.errors} errors, {r.report.warnings} warnings in the graph (see `archlab check`)"])
    ++ r.duplicates.map (fun p => s!"{p} is generated by more than one node")
    ++ r.write.errors.map fun (p, e) => s!"{p}: {e}"

def generateSummary (r : GenerateResult) (dryRun : Bool) : Summary :=
  let (outcome, title) := generateOutcome r dryRun
  let stats := generateStats r dryRun
  if r.blocked then ⟨outcome, title, stats, [], some "Run `archlab check` to see the findings"⟩
  else ⟨outcome, title, stats, generateWarnings r, none⟩

end Blueprint.Terminal
