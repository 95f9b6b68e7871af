import Blueprint.CommandLine.Grammar
import Blueprint.Text.Basic

/-!
# Help

The page about a command: what it does, how it is used, and its commands, arguments and options in
columns.
-/

namespace Blueprint.CommandLine

namespace OptionSpec

/-- The short and the long form of an option, and what comes after it. -/
def forms (o : OptionSpec) : String :=
  let short := match o.short with
    | some c => String.ofList ['-', c, ',', ' ']
    | none => "    "
  let after := match o.kind with
    | .value label _ => s!" <{label}>"
    | .count => "..."
    | _ => ""
  short ++ "--" ++ o.name ++ after

/-- Options of one rank are listed by their letters, capitals last, and the others by their
names. -/
def sortKey (o : OptionSpec) : String :=
  match o.short with
  | some c => String.ofList [c.toLower, if c.isLower then '0' else '1']
  | none => o.name

def listedBefore (o p : OptionSpec) : Bool :=
  o.rank < p.rank || (o.rank == p.rank && o.sortKey ≤ p.sortKey)

end OptionSpec

/-- Rows of two columns under a title, or nothing when there are no rows. -/
def helpSection (title : String) (rows : List (String × String)) : List String :=
  let width := (rows.map (·.1.length)).foldl max 0
  if rows.isEmpty then []
  else
    "" :: title :: rows.map fun (left, right) => "  " ++ Text.padRight width left ++ "  " ++ right

namespace CommandSpec

def usage (c : CommandSpec) (path : List String) : String :=
  " ".intercalate (path ++ (if c.options.isEmpty then [] else ["[OPTIONS]"]) ++
    c.arguments.map ArgumentSpec.label ++ if c.commands.isEmpty then [] else ["<COMMAND>"])

def help (c : CommandSpec) (path : List String) : String :=
  Text.unlines ([c.about, "", "Usage: " ++ c.usage path] ++
    helpSection "Commands:" (c.children.map fun d => (d.name, d.about)) ++
    helpSection "Arguments:" (c.arguments.map fun a => (a.label, a.about)) ++
    helpSection "Options:" ((c.options.mergeSort OptionSpec.listedBefore).map fun o =>
      (o.forms, o.about)))

end CommandSpec

end Blueprint.CommandLine
