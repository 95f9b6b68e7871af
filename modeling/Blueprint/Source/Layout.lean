import Blueprint.Text.Basic

/-!
# Source text

Source text is laid out line by line, two spaces deeper inside braces. An empty line carries no
indentation, and the finished text has no line feed at its end. `Layout` grows line by line;
`Code` is a tree of lines and blocks, which a layout takes in as a whole.
-/

namespace Blueprint

structure Layout where
  depth : Nat
  lines : List String
  deriving DecidableEq, Inhabited

namespace Layout

def empty : Layout := ⟨0, []⟩

def indented (depth : Nat) (text : String) : String :=
  if text.isEmpty then "" else String.ofList (List.replicate (2 * depth) ' ') ++ text

def line (l : Layout) (text : String) : Layout :=
  { l with lines := l.lines ++ [indented l.depth text] }

def blank (l : Layout) : Layout := { l with lines := l.lines ++ [""] }

def openBlock (l : Layout) (header : String) : Layout :=
  let l := (l.line header).line "\x7b"
  { l with depth := l.depth + 1 }

def close (l : Layout) : Layout := Layout.line { l with depth := l.depth - 1 } "\x7d"

def block (l : Layout) (header : String) (body : Layout → Layout) : Layout :=
  (body (l.openBlock header)).close

def text (l : Layout) : String := Text.joinLines l.lines

end Layout

inductive Code where
  | line (text : String)
  | block (header : String) (body : List Code)

namespace Code

def blank : Code := .line ""

mutual

def layOut : Code → Layout → Layout
  | .line t, l => l.line t
  | .block header body, l => l.block header (layOutAll body)

def layOutAll : List Code → Layout → Layout
  | [], l => l
  | c :: rest, l => layOutAll rest (layOut c l)

end

mutual

/-- The lines of a piece of code at a depth. -/
def linesAt (depth : Nat) : Code → List String
  | .line t => [Layout.indented depth t]
  | .block header body =>
    Layout.indented depth header :: Layout.indented depth "\x7b" ::
      allLinesAt (depth + 1) body ++ [Layout.indented depth "\x7d"]

def allLinesAt (depth : Nat) : List Code → List String
  | [] => []
  | c :: rest => linesAt depth c ++ allLinesAt depth rest

end

mutual

theorem layOut_eq (c : Code) (l : Layout) :
    layOut c l = { l with lines := l.lines ++ linesAt l.depth c } := by
  cases c with
  | line t => simp [layOut, linesAt, Layout.line]
  | block header body =>
    simp [layOut, linesAt, Layout.block, Layout.openBlock, Layout.close, Layout.line,
      layOutAll_eq body]

theorem layOutAll_eq (cs : List Code) (l : Layout) :
    layOutAll cs l = { l with lines := l.lines ++ allLinesAt l.depth cs } := by
  cases cs with
  | nil => simp [layOutAll, allLinesAt]
  | cons c rest => simp [layOutAll, allLinesAt, layOut_eq c, layOutAll_eq rest]

end

def text (cs : List Code) : String := (layOutAll cs .empty).text

theorem text_eq (cs : List Code) : text cs = Text.joinLines (allLinesAt 0 cs) := by
  simp [text, layOutAll_eq, Layout.text, Layout.empty]

end Code

end Blueprint
