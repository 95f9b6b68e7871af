import Blueprint.Terminal.Icon
import Blueprint.Text.Basic
import Blueprint.Text.Width

/-!
# Panels

A panel frames its title and its lines, each padded to the width of the widest. Widths are counted
in columns, and escape sequences take none.
-/

namespace Blueprint.Terminal

def isLetter (c : Char) : Bool := ('a' ≤ c && c ≤ 'z') || ('A' ≤ c && c ≤ 'Z')

/-- Where a text stands inside an escape sequence. -/
inductive Escaping where
  | outside
  | opened
  | inside

/-- Drops every escape sequence: an escape character, a bracket that may follow it, and all up to
the next letter. -/
def stripFrom : Escaping → List Char → List Char
  | _, [] => []
  | .outside, c :: rest =>
    if c = '\x1b' then stripFrom .opened rest else c :: stripFrom .outside rest
  | .opened, c :: rest =>
    if c = '[' || c = ']' then stripFrom .inside rest
    else if isLetter c then stripFrom .outside rest
    else stripFrom .inside rest
  | .inside, c :: rest => stripFrom (if isLetter c then .outside else .inside) rest

def stripEscapes (s : String) : String := String.ofList (stripFrom .outside s.toList)

def visibleWidth (s : String) : Nat := Text.width (stripEscapes s)

structure Panel where
  title : Option String
  content : List String
  tone : Tone

namespace Panel

def titled (title : String) (tone : Tone) : Panel := ⟨some title, [], tone⟩

/-- Adds every line of a text. -/
def add (p : Panel) (text : String) : Panel := { p with content := p.content ++ Text.lines text }

def addEmpty (p : Panel) : Panel := { p with content := p.content ++ [""] }

def rows (p : Panel) : List String := p.title.toList ++ p.content

/-- The columns between the two borders. -/
def innerWidth (p : Panel) : Nat := (p.rows.map visibleWidth).foldl max 0 + 2

def frame (p : Panel) (look : Look) (left right : String) : String :=
  let line := Text.repeated p.innerWidth (borders look.unicode).horizontal
  paint look.ink p.tone (left ++ line ++ right)

def row (p : Panel) (look : Look) (line : String) : String :=
  let side := paint look.ink p.tone (borders look.unicode).vertical
  side ++ " " ++ line ++ Text.spaces (p.innerWidth - 1 - visibleWidth line) ++ side

def render (p : Panel) (look : Look) : String :=
  let b := borders look.unicode
  Text.unlines (p.frame look b.topLeft b.topRight :: p.rows.map (p.row look) ++
    [p.frame look b.bottomLeft b.bottomRight])

end Panel

end Blueprint.Terminal
