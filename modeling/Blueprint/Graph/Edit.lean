import Blueprint.Graph.Basic
import Blueprint.Digest.Sha256

/-!
# Edits

A block is added under a fresh identifier, changed in place or removed; an edit gives a new graph
and leaves every other block as it was. A changed block keeps its identifier whatever the change
does. Removing a block leaves the references to it dangling.

Identifiers come from a source: `Counter` numbers them, `Uuids` draws random ones.
-/

namespace Blueprint

/-- A source of identifiers: the next one and the source after it. -/
class IdSource (σ : Type) where
  issue : σ → NodeId × σ

/-- Identifiers with a common stem and consecutive numbers, modulo `2 ^ 64`. -/
structure Counter where
  stem : String
  next : UInt64
  deriving DecidableEq, Inhabited

namespace Counter

def start : Counter := ⟨"node", 1⟩

def idOf (stem : String) (n : UInt64) : NodeId := ⟨stem ++ "-" ++ toString n.toNat⟩

instance : IdSource Counter where
  issue c := (idOf c.stem c.next, { c with next := c.next + 1 })

end Counter

/-- Random identifiers, drawn from digests of a seed. -/
structure Uuids where
  seed : List UInt8

namespace Uuids

/-- Sets the bits that mark a random identifier of version four. -/
def mark (bytes : List UInt8) : List UInt8 :=
  (bytes.take 16).mapIdx fun i b =>
    if i = 6 then (b &&& 0x0F) ||| 0x40 else if i = 8 then (b &&& 0x3F) ||| 0x80 else b

/-- Sixteen bytes in five groups. -/
def text (bytes : List UInt8) : String :=
  let group (i n : Nat) : String := Text.hex ((bytes.drop i).take n)
  "-".intercalate [group 0 4, group 4 2, group 6 2, group 8 2, group 10 6]

instance : IdSource Uuids where
  issue u :=
    let drawn := Sha256.digest u.seed
    (⟨text (mark drawn)⟩, ⟨drawn⟩)

/-- Whether a text is a version-four identifier in lower-case hexadecimal digits. -/
def wellFormed (s : String) : Bool :=
  let groups := s.toList.splitOn '-'
  groups.map List.length == [8, 4, 4, 4, 12] &&
    groups.all (·.all fun c => c.isDigit || ('a' ≤ c && c ≤ 'f')) &&
    s.toList[14]? == some '4' && (s.toList[19]?.any fun c => ['8', '9', 'a', 'b'].contains c)

end Uuids

/-- Changes the first block with the identifier, which it keeps. -/
def Kind.patch (k : Kind) (id : NodeId) (f : k.Node → k.Node) : List k.Node → List k.Node
  | [] => []
  | n :: rest =>
    if k.nodeId n = id then k.withId id (f n) :: rest else n :: k.patch id f rest

namespace Graph

def insert (g : Graph) (k : Kind) (id : NodeId) (draft : k.Node) : Graph :=
  g.setNodes k (g.nodes k ++ [k.withId id draft])

/-- Adds a draft under the next identifier of a source. -/
def add {σ : Type} [IdSource σ] (g : Graph) (k : Kind) (draft : k.Node) (s : σ) :
    Graph × NodeId × σ :=
  let (id, s) := IdSource.issue s
  (g.insert k id draft, id, s)

def update (g : Graph) (k : Kind) (id : NodeId) (f : k.Node → k.Node) : Graph :=
  g.setNodes k (k.patch id f (g.nodes k))

def keepIf (g : Graph) (p : NodeId → Bool) : Graph :=
  Kind.all.foldl (fun h k => h.setNodes k ((h.nodes k).filter fun n => p (k.nodeId n))) g

/-- Removes every block with the identifier. -/
def remove (g : Graph) (id : NodeId) : Graph := g.keepIf (· != id)

theorem nodes_keepIf (g : Graph) (p : NodeId → Bool) (k : Kind) :
    (g.keepIf p).nodes k = (g.nodes k).filter fun n => p (k.nodeId n) := by cases k <;> rfl

theorem heading_keepIf (g : Graph) (p : NodeId → Bool) : (g.keepIf p).heading = g.heading := rfl

end Graph

/-- One step in the life of a graph. -/
inductive Edit where
  | add (k : Kind) (draft : k.Node)
  | update (k : Kind) (id : NodeId) (f : k.Node → k.Node)
  | remove (id : NodeId)

/-- Applies an edit to a graph and the source of its identifiers. -/
def Edit.apply {σ : Type} [IdSource σ] : Edit → Graph × σ → Graph × σ
  | .add k draft, (g, s) => let (g, _, s) := g.add k draft s; (g, s)
  | .update k id f, (g, s) => (g.update k id f, s)
  | .remove id, (g, s) => (g.remove id, s)

end Blueprint
