import Blueprint.Json.Number
import Blueprint.Text.Basic
import Blueprint.Text.Quoted
import Blueprint.Toml.Item

/-!
# Complaints about TOML documents

What is wrong with an item of a well-formed document. A complaint that knows its place shows the
line with the place underlined; one that does not names the keys on the way to the item.
-/

namespace Blueprint.Toml

structure Complaint where
  message : String
  span : Option Span
  path : List String
  deriving DecidableEq

def complain {α : Type} (message : String) (span : Option Span) : Except Complaint α :=
  .error ⟨message, span, []⟩

/-- A double in positional notation. -/
def floatText (bits : UInt64) : String :=
  let (negative, x) := Json.Number.dyadic bits
  let sign := if negative then "-" else ""
  if Json.Number.isSpecial bits then
    if Json.Number.fraction bits = 0 then sign ++ "inf" else "NaN"
  else if x.mantissa = 0 then sign ++ "0.0"
  else
    let s := x.shortest.dropZeros 20
    sign ++ String.ofList (Json.Number.positional (Nat.toDigits 10 s.digits) s.exponent)

/-- What an item is called where another was expected. -/
def Item.describe : Item → String
  | .scalar (.string s) _ => "string " ++ Text.quoted s
  | .scalar (.integer n) _ => s!"integer `{n}`"
  | .scalar (.float bits) _ => s!"floating point `{floatText bits}`"
  | .scalar (.boolean b) _ => s!"boolean `{b}`"
  | .scalar (.datetime _) _ => "map"
  | .array .. => "sequence"
  | .tables .. => "sequence"
  | .table .. => "map"

namespace Complaint

/-- A complaint below a member: it keeps its own place, or takes that of the member. -/
def below (key : Key) (item : Item) (c : Complaint) : Complaint :=
  { c with
    span := (c.span.or item.span).or key.span
    path := key.name :: c.path }

/-- The line that a byte is on and the characters before it there, both counted from zero. -/
def position : Nat → List Char → Nat × Nat
  | _, [] => (0, 0)
  | offset, c :: rest =>
    if offset < c.utf8Size then (0, 0)
    else
      match c, position (offset - c.utf8Size) rest with
      | '\n', (line, column) => (line + 1, column)
      | _, (0, column) => (0, column + 1)
      | _, place => place

/-- The line of a place, with the place underlined as far as the line goes. -/
def excerpt (source : String) (span : Span) : String :=
  let (line, column) := position span.start source.toList
  let content := (source.toList.splitOn '\n')[line]?.getD []
  let number := toString (line + 1)
  let gutter := String.ofList (List.replicate (number.length + 1) ' ') ++ "|"
  let marks := max 1 (min (span.stop - span.start) (Text.byteSize content - column))
  s!"TOML parse error at line {number}, column {column + 1}\n" ++ gutter ++ "\n" ++
    number ++ " | " ++ String.ofList content ++ "\n" ++ gutter ++
    String.ofList (List.replicate (column + 1) ' ' ++ List.replicate marks '^') ++ "\n"

def text (c : Complaint) (source : Option String) : String :=
  match source, c.span with
  | some source, some span => excerpt source span ++ c.message ++ "\n"
  | _, _ =>
    let way := if c.path.isEmpty then "" else "in `" ++ ".".intercalate c.path ++ "`\n"
    c.message ++ "\n" ++ way

end Complaint

end Blueprint.Toml
