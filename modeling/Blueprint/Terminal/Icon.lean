import Blueprint.Terminal.Ink

/-!
# Icons and borders

Every icon and border has a Unicode form and one in ASCII.
-/

namespace Blueprint.Terminal

inductive Icon where
  | success
  | error
  | warning
  | progress
  | pending
  | arrow
  | watch
  | generate
  | check
  | diff
  | inspect
  | project
  | trash
  deriving DecidableEq, Inhabited

namespace Icon

def text (unicode : Bool) : Icon → String
  | .success => if unicode then "✓" else "[OK]"
  | .error => if unicode then "✗" else "[FAIL]"
  | .warning => if unicode then "⚠" else "[WARN]"
  | .progress => if unicode then "●" else "[..]"
  | .pending => if unicode then "○" else "[ ]"
  | .arrow => if unicode then "↳" else "[>]"
  | .watch => if unicode then "⟳" else "[~]"
  | .generate => if unicode then "⚙" else "[GEN]"
  | .check => if unicode then "🔍" else "[CHECK]"
  | .diff => if unicode then "Δ" else "[DIFF]"
  | .inspect => if unicode then "◇" else "[INSPECT]"
  | .project => if unicode then "📁" else "[PROJECT]"
  | .trash => if unicode then "🗑" else "[DEL]"

def tone : Icon → Tone
  | .success => .success
  | .error => .error
  | .warning => .warning
  | .progress => .warning
  | .trash => .warning
  | .pending => .dim
  | .arrow => .dim
  | _ => .info

def render (i : Icon) (look : Look) : String := paint look.ink i.tone (i.text look.unicode)

end Icon

/-- The six parts of a frame. -/
structure Borders where
  topLeft : String
  topRight : String
  bottomLeft : String
  bottomRight : String
  horizontal : String
  vertical : String

def borders (unicode : Bool) : Borders :=
  if unicode then ⟨"╭", "╮", "╰", "╯", "─", "│"⟩ else ⟨"+", "+", "+", "+", "-", "|"⟩

end Blueprint.Terminal
