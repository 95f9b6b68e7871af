import Blueprint.Json.Decode
import Blueprint.Settings.Basic
import Blueprint.Toml.Complaint

/-!
# Settings from TOML

Settings are decoded twice: each file as it was written, and the values that all files come to
together. A section is a table, whose members count in their order, or an array of its settings in
the order of their declaration. Keys that a section does not declare are collected.

The two readings differ in three corners. A file may have more items in the array of a section than
it has settings, may have a date where a section is expected, and has words of its own for a name
of the wrong kind.
-/

namespace Blueprint

open Toml

namespace Settings

inductive Reading where
  | file
  | merged
  deriving DecidableEq

/-- What was decoded, and the keys that were not known. -/
abbrev Decoded (α : Type) := Except Complaint (α × List Key)

def refuse {α : Type} (item : Item) (expected : String) : Except Complaint α :=
  complain (Json.Misfit.message (.wrongType item.describe expected)) item.span

def decodePath : Item → Except Complaint Path
  | .scalar (.string s) _ => .ok ⟨s⟩
  | item => refuse item "path string"

def decodeString : Item → Except Complaint String
  | .scalar (.string s) _ => .ok s
  | item => refuse item "a string"

def decodeBool : Item → Except Complaint Bool
  | .scalar (.boolean b) _ => .ok b
  | item => refuse item "a boolean"

/-- What may stand beside a name that is a key. -/
def decodeNothing : Item → Except Complaint Unit
  | .array items span => if items.isEmpty then .ok () else complain "expected empty array" span
  | .tables items span => if items.isEmpty then .ok () else complain "expected empty array" span
  | .table _ ms span => if ms.isEmpty then .ok () else complain "expected empty table" span
  | item => complain s!"expected table, found {item.typeName}" item.span

/-- A name of a fixed set: a string, or a table with the name as its only key. -/
def decodeName (r : Reading) (known : List String) : Item → Except Complaint String
  | .scalar (.string s) span =>
    if known.contains s then .ok s else complain (unknown s) span
  | .table _ [] span => complain "wanted exactly 1 element, found 0 elements" span
  | .table _ [(key, item)] span =>
    if known.contains key.name then (decodeNothing item).map fun _ => key.name
    else complain (unknown key.name) (key.span.or span)
  | .table _ _ span => complain "wanted exactly 1 element, more than 1 element" span
  | item =>
    match r with
    | .file => complain "wanted string or table" item.span
    | .merged =>
      complain (Json.Misfit.message (.wrongType "unit variant" "string only")) item.span
where
  unknown (s : String) : String := Json.Misfit.message (.unknownVariant s known)

def decodeNamed {α : Type} (r : Reading) (all : List α) (name : α → String) (item : Item) :
    Except Complaint α := do
  let s ← decodeName r (all.map name) item
  match all.find? (name · == s) with
  | some a => .ok a
  | none => complain (Json.Misfit.message (.unknownVariant s (all.map name))) item.span

/-! ### Sections -/

/-- A section: what it is called, its keys in order, and how the item at a key is taken in. -/
structure Section (α : Type) where
  title : String
  keys : List String
  standard : α
  take : String → Item → α → Decoded α

variable {α : Type} (r : Reading) (s : Section α)

def takeMembers : List (Key × Item) → α → Except Complaint (α × List Key)
  | [], a => .ok (a, [])
  | (key, item) :: rest, a => do
    if s.keys.contains key.name then
      let (a, here) ← (s.take key.name item a).mapError (·.below key item)
      let (a, after) ← takeMembers rest a
      return (a, here ++ after)
    else
      let (a, after) ← takeMembers rest a
      return (a, key :: after)

def takeItems : List (String × Item) → α → Except Complaint (α × List Key)
  | [], a => .ok (a, [])
  | (key, item) :: rest, a => do
    let (a, here) ← s.take key item a
    let (a, after) ← takeItems rest a
    return (a, here ++ after)

/-- The only key of a date that is looked at as a table. -/
def dateKey : Key := ⟨"$__toml_private_datetime", none⟩

def ofItems (items : List Item) (span : Option Span) : Except Complaint (α × List Key) := do
  let decoded ← takeItems s (s.keys.zip items) s.standard
  if r == .merged && s.keys.length < items.length then
    complain (Json.Misfit.message (.wrongLength items.length "fewer elements in array")) span
  return decoded

def decodeSection : Item → Decoded α
  | .table _ ms _ => takeMembers s ms s.standard
  | .array items span => ofItems r s items span
  | .tables items span => ofItems r s items span
  | .scalar (.datetime text) span =>
    match r with
    | .file => .ok (s.standard, [dateKey])
    | .merged => refuse (.scalar (.string text) span) s.title
  | item => refuse item s.title

def alone (d : Except Complaint α) : Decoded α := d.map (·, [])

def generateSection : Section GenerateSettings where
  title := "struct GenerateConfig"
  keys := ["out_dir", "fail_on", "skip_unchanged", "language"]
  standard := .standard
  take key item g :=
    alone <| match key with
    | "out_dir" => (decodePath item).map fun p => { g with outDir := p }
    | "fail_on" => (decodeNamed r Severity.all Severity.name item).map ({ g with failOn := · })
    | "skip_unchanged" => (decodeBool item).map fun b => { g with skipUnchanged := b }
    | _ => (decodeString item).map fun l => { g with language := l }

def storeSection : Section StoreSettings where
  title := "struct StoreConfig"
  keys := ["dir"]
  standard := .standard
  take _ item _ := alone ((decodePath item).map fun p => ⟨some p⟩)

def outputSection : Section OutputSettings where
  title := "struct OutputConfig"
  keys := ["verbosity", "color", "unicode"]
  standard := .standard
  take key item o :=
    alone <| match key with
    | "verbosity" =>
      (decodeNamed r Verbosity.all Verbosity.name item).map ({ o with verbosity := · })
    | "color" => (decodeNamed r ColorMode.all ColorMode.name item).map ({ o with color := · })
    | _ => (decodeBool item).map fun b => { o with unicode := b }

def wholeSection : Section Settings where
  title := "struct Config"
  keys := ["generate", "store", "output"]
  standard := .standard
  take key item c :=
    match key with
    | "generate" =>
      (decodeSection r (generateSection r) item).map fun (g, ks) => ({ c with generate := g }, ks)
    | "store" =>
      (decodeSection r storeSection item).map fun (t, ks) => ({ c with store := t }, ks)
    | _ =>
      (decodeSection r (outputSection r) item).map fun (o, ks) => ({ c with output := o }, ks)

def decode (item : Item) : Decoded Settings := decodeSection r (wholeSection r) item

end Settings

end Blueprint
