import Blueprint.Store.Basic
import Blueprint.Terminal.Block

/-!
# Output of project lists

The saved projects with the time since they were saved, in seconds. Long names lose their middle.
-/

namespace Blueprint.Terminal

structure ProjectRow where
  entry : ProjectEntry
  age : Nat
  deriving DecidableEq

def ageText (seconds : Nat) : String :=
  if seconds < 60 then "just now"
  else if seconds < 3600 then s!"{seconds / 60}m ago"
  else if seconds < 86400 then s!"{seconds / 3600}h ago"
  else s!"{seconds / 86400}d ago"

/-- At most `n` characters of a text, with an ellipsis in place of its middle. -/
def shorten (n : Nat) (s : String) : String :=
  if s.length ≤ n then s
  else
    let left := (n - 1) / 2
    let right := n - 1 - left
    String.ofList (s.toList.take left ++ '…' :: s.toList.drop (s.length - right))

def projectColumns (name nodes saved : String) : String :=
  Text.padRight 32 name ++ " " ++ Text.padLeft 6 nodes ++ " " ++ Text.padLeft 12 saved

def projectLine (r : ProjectRow) : String :=
  projectColumns (shorten 32 r.entry.name) (toString r.entry.nodeCount) (ageText r.age)

def projectList (rows : List ProjectRow) (dir : Path) (look : Look) : String :=
  let header : Header := ⟨.project, "archlab projects",
    [("Store", dir.text), ("Projects", toString rows.length)]⟩
  let dim := paint look.ink .dim
  let body :=
    if rows.isEmpty then
      Text.unlines [Icon.pending.render look ++ " " ++ dim "No projects saved.", "",
        dim "Run `archlab project save <name> <snapshot>` to add one."]
    else
      (rows.foldl (fun p r => p.add (projectLine r))
        ((Panel.titled "Saved Projects" .info).add
          (dim (projectColumns "Project" "Nodes" "Saved")))).render look
  header.render look ++ "\n" ++ body

end Blueprint.Terminal
