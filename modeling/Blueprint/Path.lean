/-!
# Paths

A path is a text, and what it means are its components: `/` separates them, empty ones and dots do
not count except a dot in front. Paths are compared by components; two spellings of one list of
components name the same place.
-/

namespace Blueprint

inductive Component where
  | root
  | current
  | parent
  | name (s : String)
  deriving DecidableEq, Inhabited

namespace Component

/-- Names come after all other components, in the order of their texts. -/
def compare : Component → Component → Ordering
  | .name a, .name b => Ord.compare a b
  | a, b => Ord.compare (rank a) (rank b)
where
  rank : Component → Nat
    | .root => 0
    | .current => 1
    | .parent => 2
    | .name _ => 3

/-- The component that a part between separators stands for. -/
def ofPart? (part : List Char) : Option Component :=
  if part = [] ∨ part = ['.'] then none
  else if part = ['.', '.'] then some .parent
  else some (.name (String.ofList part))

def text : Component → String
  | .root => "/"
  | .current => "."
  | .parent => ".."
  | .name s => s

end Component

structure Path where
  text : String
  deriving DecidableEq, Inhabited

namespace Path

variable (p : Path)

def isAbsolute : Bool := p.text.toList.head? == some '/'

def parts : List (List Char) := p.text.toList.splitOn '/'

/-- What stands before the named components. -/
def start : List Component :=
  if p.isAbsolute then [.root] else if p.parts.head? = some ['.'] then [.current] else []

def components : List Component := p.start ++ p.parts.filterMap Component.ofPart?

/-- Whether two paths have the same components. -/
def same (q : Path) : Bool := p.components == q.components

def compareComponents : List Component → List Component → Ordering
  | [], [] => .eq
  | [], _ :: _ => .lt
  | _ :: _, [] => .gt
  | a :: as, b :: bs =>
    match a.compare b with
    | .eq => compareComponents as bs
    | o => o

def compare (q : Path) : Ordering := compareComponents p.components q.components

/-- Continues a path by another, which takes its place when it is absolute. -/
def join (q : Path) : Path :=
  if q.isAbsolute then q
  else if p.text.isEmpty then q
  else if p.text.toList.getLast? == some '/' then ⟨p.text ++ q.text⟩
  else ⟨p.text ++ "/" ++ q.text⟩

def push (name : String) : Path := p.join ⟨name⟩

/-- The last component, when it is a name. -/
def fileName? : Option String :=
  match p.components.getLast? with
  | some (.name s) => some s
  | _ => none

end Path

/-- A file name before and after its last dot. A dot in front of the name does not count. -/
def splitExtension (name : String) : String × Option String :=
  let back := name.toList.reverse
  let tail := back.takeWhile (· != '.')
  match back.drop tail.length with
  | _ :: stem@(_ :: _) => (String.ofList stem.reverse, some (String.ofList tail.reverse))
  | _ => (name, none)

end Blueprint
