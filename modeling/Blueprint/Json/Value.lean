import Blueprint.Json.Number
import Blueprint.Text.Basic

/-!
# JSON values and their text

An object is a list of members. `Value.record` and the reader keep members in increasing order of
their keys, one for each key; the printers keep the order they are given. `compact` writes no
blank, `pretty` writes one item a line, two spaces deeper than its container.
-/

namespace Blueprint.Json

inductive Value where
  | null
  | bool (b : Bool)
  | number (n : Number)
  | string (s : String)
  | array (items : List Value)
  | object (members : List (String × Value))
  deriving Inhabited

abbrev Member := String × Value

/-- Puts a member at its place in the order of keys, in place of one with the same key. -/
def insertMember (m : Member) : List Member → List Member
  | [] => [m]
  | n :: rest =>
    match compare m.1 n.1 with
    | .lt => m :: n :: rest
    | .eq => m :: rest
    | .gt => n :: insertMember m rest

def sortMembers (ms : List Member) : List Member :=
  ms.foldl (fun sorted m => insertMember m sorted) []

namespace Value

/-- The object with the given members in key order. -/
def record (ms : List Member) : Value := .object (sortMembers ms)

def nat (n : Nat) : Value := .number (.nat (UInt64.ofNat n))

def member? (key : String) : Value → Option Value
  | .object ms => (ms.find? (·.1 == key)).map (·.2)
  | _ => none

def string? : Value → Option String
  | .string s => some s
  | _ => none

end Value

def escapeChar (c : Char) : List Char :=
  match c with
  | '"' => ['\\', '"']
  | '\\' => ['\\', '\\']
  | '\n' => ['\\', 'n']
  | '\r' => ['\\', 'r']
  | '\t' => ['\\', 't']
  | '\x08' => ['\\', 'b']
  | '\x0c' => ['\\', 'f']
  | c =>
    if c.toNat < 0x20 then
      ['\\', 'u', '0', '0', Text.hexDigit (c.toNat / 16), Text.hexDigit (c.toNat % 16)]
    else [c]

def quoted (s : String) : List Char := '"' :: s.toList.flatMap escapeChar ++ ['"']

namespace Value

mutual

def compactChars : Value → List Char
  | .null => ['n', 'u', 'l', 'l']
  | .bool true => ['t', 'r', 'u', 'e']
  | .bool false => ['f', 'a', 'l', 's', 'e']
  | .number n => n.chars
  | .string s => quoted s
  | .array items => '[' :: compactItems items ++ [']']
  | .object ms => '{' :: compactMembers ms ++ ['}']

def compactItems : List Value → List Char
  | [] => []
  | [v] => compactChars v
  | v :: rest => compactChars v ++ ',' :: compactItems rest

def compactMembers : List (String × Value) → List Char
  | [] => []
  | [(k, v)] => quoted k ++ ':' :: compactChars v
  | (k, v) :: rest => quoted k ++ ':' :: compactChars v ++ ',' :: compactMembers rest

end

/-- A line break and the indentation of depth `d`. -/
def newline (d : Nat) : List Char := '\n' :: List.replicate (2 * d) ' '

mutual

def prettyChars (d : Nat) : Value → List Char
  | .null => ['n', 'u', 'l', 'l']
  | .bool true => ['t', 'r', 'u', 'e']
  | .bool false => ['f', 'a', 'l', 's', 'e']
  | .number n => n.chars
  | .string s => quoted s
  | .array [] => ['[', ']']
  | .array (v :: rest) =>
    '[' :: newline (d + 1) ++ prettyChars (d + 1) v ++ prettyItems d rest ++ newline d ++ [']']
  | .object [] => ['{', '}']
  | .object ((k, v) :: rest) =>
    '{' :: newline (d + 1) ++ quoted k ++ ':' :: ' ' :: prettyChars (d + 1) v ++
      prettyMembers d rest ++ newline d ++ ['}']

/-- The items after the first, each after its comma. -/
def prettyItems (d : Nat) : List Value → List Char
  | [] => []
  | v :: rest => ',' :: newline (d + 1) ++ prettyChars (d + 1) v ++ prettyItems d rest

def prettyMembers (d : Nat) : List (String × Value) → List Char
  | [] => []
  | (k, v) :: rest =>
    ',' :: newline (d + 1) ++ quoted k ++ ':' :: ' ' :: prettyChars (d + 1) v ++
      prettyMembers d rest

end

def compact (v : Value) : String := String.ofList v.compactChars

def pretty (v : Value) : String := String.ofList (v.prettyChars 0)

end Value

end Blueprint.Json
