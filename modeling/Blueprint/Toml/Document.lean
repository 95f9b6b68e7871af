import Blueprint.Text.Basic
import Blueprint.Toml.Scalar

/-!
# Reading TOML documents

A document is read into its root table or refused as malformed. A header starts a table, which
joins the others when the next header or the end is reached. What a header or a dotted key may add
to depends on how the tables on its way came to be: a table has one header at most, and dotted keys
add to tables that dotted keys made.
-/

namespace Blueprint.Toml

abbrev Members := List (Key × Item)

def findMember (key : String) (ms : Members) : Option Item :=
  (ms.find? (·.1.name == key)).map (·.2)

/-- Puts an item at its key, or at the end. A key that is there already stays as it is. -/
def putMember (key : Key) (item : Item) : Members → Members
  | [] => [(key, item)]
  | (k, old) :: rest =>
    if k.name = key.name then (k, item) :: rest else (k, old) :: putMember key item rest

def dropMember (key : String) (ms : Members) : Members := ms.filter (·.1.name != key)

/-! ### Paths below a table -/

/-- A way of going down from a table. -/
inductive Route where
  | headers
  | dotted
  | inline
  deriving DecidableEq

namespace Route

/-- What a table is that comes to be on the way. -/
def fresh : Route → TableKind
  | .headers => .implicit
  | .dotted => .dotted
  | .inline => .inlineDotted

/-- Which tables may be gone through. -/
def passes : Route → TableKind → Bool
  | .headers, k => k == .header || k == .implicit || k == .dotted
  | .dotted, k => k == .implicit || k == .dotted
  | .inline, k => k == .inlineDotted

end Route

/-- Changes the table at a path, where a list of tables stands for its last one. -/
def alter (r : Route) (change : Item → Option Item) : List Key → Item → Option Item
  | [], table => change table
  | key :: path, .table kind ms span =>
    let below : Option Item := match (findMember key.name ms).getD (.table r.fresh [] none) with
      | .tables items span =>
        match items.getLast? with
        | some last =>
          (alter r change path last).map fun last => .tables (items.dropLast ++ [last]) span
        | none => none
      | .table kind ms span =>
        if r.passes kind then alter r change path (.table kind ms span) else none
      | _ => none
    below.map fun child => .table kind (putMember key child ms) span
  | _, _ => none

/-- Adds a member to a table that has none with its key. -/
def addMember (key : Key) (item : Item) : Item → Option Item
  | .table kind ms span =>
    if (findMember key.name ms).isSome then none else some (.table kind (ms ++ [(key, item)]) span)
  | _ => none

/-- Adds a member at a dotted key. The table that it joins is the first one, or one that dotted
keys made. -/
def addDotted (r : Route) (path : List Key) (key : Key) (item : Item) : Item → Option Item :=
  alter r (fun table =>
    match table with
    | .table kind _ _ => if path.isEmpty || kind == r.fresh then addMember key item table else none
    | _ => none) path

/-! ### Keys -/

/-- A text whose places are counted. -/
structure Source where
  size : Nat

def Source.between (src : Source) (s rest : List Char) : Span :=
  ⟨src.size - Text.byteSize s, src.size - Text.byteSize rest⟩

/-- How deep values may stand in each other, and how many parts a key may have. -/
def depthLimit : Nat := 80

def isBareKeyChar (c : Char) : Bool := c.isAlphanum || c = '_' || c = '-'

def readKey (src : Source) (s : List Char) : Option (Key × List Char) :=
  match s with
  | '"' :: after => (readBasic (after.length + 1) after).map fun (cs, rest) => named cs rest
  | '\'' :: after => (readLiteral after).map fun (cs, rest) => named cs rest
  | s =>
    match s.takeWhile isBareKeyChar with
    | [] => none
    | cs => some (named cs (s.drop cs.length))
where
  named (cs rest : List Char) : Key × List Char :=
    (⟨String.ofList cs, some (src.between s rest)⟩, rest)

/-- The parts of a dotted key, with blanks around each. -/
def readKeys (src : Source) : Nat → List Char → Option (List Key × List Char)
  | 0, _ => none
  | n + 1, s => do
    let (key, rest) ← readKey src (skipSpace s)
    match skipSpace rest with
    | '.' :: rest => do
      let (keys, rest) ← readKeys src n rest
      return (key :: keys, rest)
    | rest => return ([key], rest)

/-- A dotted key as the path before its last part, that part, and the rest. -/
def readPath (src : Source) (s : List Char) : Option (List Key × Key × List Char) := do
  let (keys, rest) ← readKeys src (s.length + 1) s
  let key ← keys.getLast?
  if depthLimit ≤ keys.length then none else return (keys.dropLast, key, rest)

/-! ### Values -/

def Item.place (span : Span) : Item → Item
  | .scalar s _ => .scalar s (some span)
  | .array items _ => .array items (some span)
  | .tables items _ => .tables items (some span)
  | .table kind ms _ => .table kind ms (some span)

def skipAll (s : List Char) : List Char := skipLines (s.length + 1) s

mutual

def readValue (src : Source) : Nat → Nat → List Char → Option (Item × List Char)
  | 0, _, _ => none
  | n + 1, depth, s =>
    let read : Option (Item × List Char) := match s with
      | '[' :: after =>
        if depthLimit ≤ depth + 1 then none
        else
          (readItems src n (depth + 1) (skipAll after)).map fun (items, rest) =>
            (.array items none, rest)
      | '{' :: after =>
        if depthLimit ≤ depth + 1 then none
        else
          match skipSpace after with
          | '}' :: rest => some (.table .inline [] none, rest)
          | after => readPairs src n (depth + 1) after (.table .inline [] none)
      | s => (readScalar s).map fun (scalar, rest) => (.scalar scalar none, rest)
    read.map fun (item, rest) => (item.place (src.between s rest), rest)

/-- The items of an array up to its end. -/
def readItems (src : Source) : Nat → Nat → List Char → Option (List Item × List Char)
  | 0, _, _ => none
  | n + 1, depth, s =>
    match s with
    | ']' :: rest => some ([], rest)
    | s => do
      let (item, rest) ← readValue src n depth s
      match skipAll rest with
      | ',' :: rest => do
        let (items, rest) ← readItems src n depth (skipAll rest)
        return (item :: items, rest)
      | ']' :: rest => return ([item], rest)
      | _ => none

/-- The members of an inline table up to its end, which join those that were read. -/
def readPairs (src : Source) : Nat → Nat → List Char → Item → Option (Item × List Char)
  | 0, _, _, _ => none
  | n + 1, depth, s, table => do
    let (path, key, rest) ← readPath src s
    let rest ← readChar '=' rest
    let (item, rest) ← readValue src n depth (skipSpace rest)
    let table ← addDotted .inline path key item table
    match skipSpace rest with
    | ',' :: rest => readPairs src n depth rest table
    | '}' :: rest => return (table, rest)
    | _ => none

end

/-! ### Documents -/

/-- The blanks and the comment that may end a line, and its end. -/
def endLine (s : List Char) : Option (List Char) :=
  match skipComment (skipSpace s) with
  | [] => some []
  | rest => newline? rest

/-- The table that a header has started. -/
structure Open where
  path : List Key
  key : Option Key
  listed : Bool
  table : Item

/-- A document while it is read: what is finished, and the table that lines add to. -/
structure Draft where
  root : Item
  current : Open

namespace Draft

def start : Draft :=
  ⟨.table .header [] none, ⟨[], none, false, .table .header [] (some ⟨0, 0⟩)⟩⟩

/-- The stretch of a list of tables, from the first to the last. -/
def stretch (items : List Item) : Option Span := do
  let first ← (← items.head?).span
  let last ← (← items.getLast?).span
  return ⟨first.start, last.stop⟩

/-- Adds a table to the list at a key. -/
def pushTable (key : Key) (table : Item) : Item → Option Item
  | .table kind ms span =>
    match (findMember key.name ms).getD (.tables [] none) with
    | .tables items _ =>
      let items := items ++ [table]
      some (.table kind (putMember key (.tables items (stretch items)) ms) span)
    | _ => none
  | _ => none

/-- The finished part with the current table in its place. -/
def finish (d : Draft) : Option Item :=
  match d.current.key with
  | none => some d.current.table
  | some key =>
    if d.current.listed then alter .headers (pushTable key d.current.table) d.current.path d.root
    else alter .headers (addMember key d.current.table) d.current.path d.root

/-- Takes a table out of its parent that came to be on the way to others, to be continued. -/
def reopen (key : Key) : Item → Option (Item × Members)
  | .table kind ms span =>
    match findMember key.name ms with
    | none => some (.table kind ms span, [])
    | some (.table .implicit children _) =>
      some (.table kind (dropMember key.name ms) span, children)
    | some _ => none
  | _ => none

/-- The members of the table at a path that a header continues. -/
def continued (path : List Key) (key : Key) (root : Item) : Option Members :=
  match path, root with
  | [], table => (reopen key table).map (·.2)
  | k :: path, .table _ ms _ =>
    match findMember k.name ms with
    | none => some []
    | some (.tables items _) => items.getLast?.bind (continued path key)
    | some child => continued path key child
  | _, _ => none

/-- Starts a table with a header. -/
def openTable (d : Draft) (path : List Key) (key : Key) (span : Span) : Option Draft := do
  let root ← d.finish
  let members ← continued path key root
  let root ← alter .headers (fun table => (reopen key table).map (·.1)) path root
  return ⟨root, path, some key, false, .table .header members (some span)⟩

/-- Starts one more table of a list with a header. -/
def openListed (d : Draft) (path : List Key) (key : Key) (span : Span) : Option Draft := do
  let root ← d.finish
  let root ← alter .headers (fun parent =>
    match parent with
    | .table kind ms span =>
      match (findMember key.name ms).getD (.tables [] none) with
      | .tables items stretch => some (.table kind (putMember key (.tables items stretch) ms) span)
      | _ => none
    | _ => none) path root
  return ⟨root, path, some key, true, .table .header [] (some span)⟩

/-- Stretches the current table to the end of its last value. -/
def stretchTo (item : Item) : Item → Item
  | .table kind ms (some span) =>
    .table kind ms (some ⟨span.start, (item.span.map Span.stop).getD span.stop⟩)
  | table => table

def add (d : Draft) (path : List Key) (key : Key) (item : Item) : Option Draft := do
  let table ← addDotted .dotted path key item (stretchTo item d.current.table)
  return { d with current := { d.current with table := table } }

end Draft

def readHeader (src : Source) (s : List Char) (d : Draft) : Option (Draft × List Char) :=
  match s with
  | '[' :: '[' :: after => do
    let (path, key, rest) ← readPath src after
    match rest with
    | ']' :: ']' :: rest => do
      let d ← d.openListed path key (src.between s rest)
      return (d, ← endLine rest)
    | _ => none
  | '[' :: after => do
    let (path, key, rest) ← readPath src after
    let rest ← readChar ']' rest
    let d ← d.openTable path key (src.between s rest)
    return (d, ← endLine rest)
  | _ => none

def readLine (src : Source) (s : List Char) (d : Draft) : Option (Draft × List Char) := do
  let (path, key, rest) ← readPath src s
  let rest ← readChar '=' rest
  let rest := skipSpace rest
  let (item, rest) ← readValue src (rest.length + 1) 0 rest
  let rest ← endLine rest
  return (← d.add path key item, rest)

def readLines (src : Source) : Nat → List Char → Draft → Option Draft
  | 0, _, _ => none
  | n + 1, s, d =>
    match skipAll s with
    | [] => some d
    | s => do
      let (d, rest) ← if s.head? = some '[' then readHeader src s d else readLine src s d
      readLines src n rest d

/-- Drops the mark that a text may begin with. -/
def withoutMark : List Char → List Char
  | '\uFEFF' :: rest => rest
  | s => s

/-- The root table of a document, or nothing when it is malformed. -/
def parse? (text : String) : Option Item :=
  let s := withoutMark text.toList
  (readLines ⟨text.utf8ByteSize⟩ (s.length + 1) s .start).bind Draft.finish

end Blueprint.Toml
