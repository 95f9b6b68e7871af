import Blueprint.Json.Number

/-!
# TOML documents

A document is a table of items. Items know the stretch of text that they were read from, which an
error points to. `Value` is what is left of an item without its place, with tables in key order.
-/

namespace Blueprint.Toml

/-- A stretch of bytes. -/
structure Span where
  start : Nat
  stop : Nat
  deriving DecidableEq, Inhabited

inductive Scalar where
  | string (s : String)
  | integer (n : Int)
  | float (bits : UInt64)
  | boolean (b : Bool)
  | datetime (text : String)
  deriving DecidableEq, Inhabited

/-- How a table came to be: by its own header, on the way to another one, by a dotted key, or
between braces. -/
inductive TableKind where
  | header
  | implicit
  | dotted
  | inline
  | inlineDotted
  deriving DecidableEq, Inhabited

structure Key where
  name : String
  span : Option Span
  deriving DecidableEq, Inhabited

inductive Item where
  | scalar (s : Scalar) (span : Option Span)
  | array (items : List Item) (span : Option Span)
  | tables (items : List Item) (span : Option Span)
  | table (kind : TableKind) (members : List (Key × Item)) (span : Option Span)
  deriving Inhabited

namespace Item

def span : Item → Option Span
  | .scalar _ s => s
  | .array _ s => s
  | .tables _ s => s
  | .table _ _ s => s

def typeName : Item → String
  | .scalar (.string _) _ => "string"
  | .scalar (.integer _) _ => "integer"
  | .scalar (.float _) _ => "float"
  | .scalar (.boolean _) _ => "boolean"
  | .scalar (.datetime _) _ => "datetime"
  | .array .. => "array"
  | .tables .. => "array of tables"
  | .table .inline .. => "inline table"
  | .table .inlineDotted .. => "inline table"
  | .table .. => "table"

end Item

inductive Value where
  | scalar (s : Scalar)
  | array (items : List Value)
  | table (members : List (String × Value))
  deriving Inhabited

/-- Puts a member at its place in the order of keys, in place of one with the same key. -/
def insert (key : String) (v : Value) : List (String × Value) → List (String × Value)
  | [] => [(key, v)]
  | (k, w) :: rest =>
    match compare key k with
    | .lt => (key, v) :: (k, w) :: rest
    | .eq => (key, v) :: rest
    | .gt => (k, w) :: insert key v rest

def lookup (key : String) (ms : List (String × Value)) : Option Value :=
  (ms.find? (·.1 == key)).map (·.2)

namespace Item

mutual

def value : Item → Value
  | .scalar s _ => .scalar s
  | .array items _ => .array (values items)
  | .tables items _ => .array (values items)
  | .table _ ms _ => .table (members ms)

def values : List Item → List Value
  | [] => []
  | i :: rest => value i :: values rest

def members : List (Key × Item) → List (String × Value)
  | [] => []
  | (k, i) :: rest => insert k.name (value i) (members rest)

end

mutual

/-- An item without a place. -/
def ofValue : Value → Item
  | .scalar s => .scalar s none
  | .array vs => .array (ofValues vs) none
  | .table ms => .table .header (ofMembers ms) none

def ofValues : List Value → List Item
  | [] => []
  | v :: rest => ofValue v :: ofValues rest

def ofMembers : List (String × Value) → List (Key × Item)
  | [] => []
  | (k, v) :: rest => (⟨k, none⟩, ofValue v) :: ofMembers rest

end

end Item

/-! ### Overlays -/

mutual

/-- What stands at a key after a value is laid over it: tables are merged, and all else gives
way. -/
def overlay (old : Option Value) : Value → Value
  | .table ms =>
    match old with
    | some (.table base) => .table (merge base ms)
    | _ => .table ms
  | v => v

/-- Lays the members of a table over another table. -/
def merge (base : List (String × Value)) : List (String × Value) → List (String × Value)
  | [] => base
  | (k, v) :: rest => merge (insert k (overlay (lookup k base) v) base) rest

end

end Blueprint.Toml
