import Blueprint.Graph.Finding

/-!
# Annotations

A line that a build service takes as a command to show a message. What has a meaning in such a
line is written as a percent sign and two digits, so a message is one line and forges nothing.
-/

namespace Blueprint.Terminal

def escapeData (c : Char) : List Char :=
  match c with
  | '%' => ['%', '2', '5']
  | '\r' => ['%', '0', 'D']
  | '\n' => ['%', '0', 'A']
  | c => [c]

def escapeProperty (c : Char) : List Char :=
  match c with
  | ':' => ['%', '3', 'A']
  | ',' => ['%', '2', 'C']
  | c => escapeData c

def escaped (f : Char → List Char) (s : String) : String := String.ofList (s.toList.flatMap f)

def annotation (level : Severity) (message : String) (file title : Option String) : String :=
  let property (key : String) (value : Option String) : List String :=
    (value.map fun v => key ++ "=" ++ escaped escapeProperty v).toList
  let properties := match property "file" file ++ property "title" title with
    | [] => ""
    | ps => " " ++ ",".intercalate ps
  "::" ++ level.name ++ properties ++ "::" ++ escaped escapeData message

end Blueprint.Terminal
