import Blueprint.Proofs.Except
import Blueprint.Snapshot.Text
import Mathlib.Data.List.Nodup

/-!
# Parts of snapshots

Every value in a snapshot stands for a part of the graph: a leaf, a list, or a record whose members
are parts again. `Part.members` names the members that each record declares, and `Part.defaults`
those that may be left out. Whether a record is written as an object or as an array of its fields,
it is decoded exactly when each declared member, or its default, is decoded for itself.
-/

namespace Blueprint.Snapshot

open Json

/-- What a value in a snapshot may stand for. -/
inductive Part : Type 1 where
  | leaf {α : Type} (decode : Value → Except Misfit α)
  | list (item : Part)
  | field
  | valueObject
  | entityField
  | entity
  | aggregate
  | method
  | repository
  | shape
  | useCase
  | heading
  | graph

namespace Part

/-- The type that a part is decoded into. -/
def Carrier : Part → Type
  | @leaf α _ => α
  | list item => List item.Carrier
  | field => Field
  | valueObject => ValueObject
  | entityField => EntityField
  | entity => Entity
  | aggregate => Aggregate
  | method => Method
  | repository => Repository
  | shape => Shape
  | useCase => UseCase
  | heading => Heading
  | graph => Graph

def decode : (p : Part) → Value → Except Misfit p.Carrier
  | leaf decode => decode
  | list item => decodeList item.decode
  | field => Field.decode
  | valueObject => ValueObject.decode
  | entityField => EntityField.decode
  | entity => Entity.decode
  | aggregate => Aggregate.decode
  | method => Method.decode
  | repository => Repository.decode
  | shape => Shape.decode
  | useCase => UseCase.decode
  | heading => Heading.decode
  | graph => Graph.decode

/-! ### Declared members -/

abbrev name : Part := leaf decodeString

abbrev id : Part := leaf NodeId.decode

abbrev type : Part := leaf (Primitive.decode isNull)

/-- The tag that selects the variant of an entity field. -/
def tag? : Value → Option String
  | .object ms => ((Value.object ms).member? "kind").bind Value.string?
  | .array (v :: _) => v.string?
  | _ => none

/-- The members of a record, in the order of an array of its fields. -/
def members : Part → Value → List (String × Part)
  | leaf _, _ | list _, _ => []
  | field, _ => [("name", name), ("type", type)]
  | valueObject, _ => [("id", id), ("name", name), ("fields", list field)]
  | entityField, v => ("kind", leaf EntityField.decodeTag) :: ("name", name) ::
    if tag? v = some "primitive" then [("type", leaf (Primitive.decode isNothing))]
    else [("voId", id)]
  | entity, _ => [("id", id), ("name", name), ("idType", type), ("fields", list entityField)]
  | aggregate, _ => [("id", id), ("name", name), ("rootEntityId", id), ("entityIds", list id),
    ("invariants", list name)]
  | method, _ => [("name", name), ("signature", name)]
  | repository, _ => [("id", id), ("name", name), ("methods", list method)]
  | shape, _ => [("name", name), ("fields", list field)]
  | useCase, _ => [("id", id), ("name", name), ("input", shape), ("output", shape),
    ("repoIds", list id), ("reads", list id), ("writes", list id)]
  | heading, _ => [("name", name), ("version", leaf decodeWord)]
  | graph, _ => [("valueObjects", list valueObject), ("entities", list entity),
    ("aggregates", list aggregate), ("repositories", list repository),
    ("useCases", list useCase), ("meta", heading)]

def keys (p : Part) (v : Value) : List String := (p.members v).map Prod.fst

/-- The members that may be left out, with the values that they then have. -/
def defaults : Part → List Member
  | valueObject | entity | shape => [("fields", .array [])]
  | aggregate => [("entityIds", .array []), ("invariants", .array [])]
  | repository => [("methods", .array [])]
  | useCase => [("repoIds", .array []), ("reads", .array []), ("writes", .array [])]
  | heading => [("version", .nat 1)]
  | graph => [("valueObjects", .array []), ("entities", .array []), ("aggregates", .array []),
    ("repositories", .array []), ("useCases", .array [])]
  | _ => []

def default? (p : Part) (key : String) : Option Value :=
  (p.defaults.find? (·.1 == key)).map (·.2)

/-- The value of a member, also when it is left out. -/
def value? (p : Part) (v : Value) (key : String) : Option Value :=
  (match v with
    | .object ms => (Value.object ms).member? key
    | .array vs => vs[(p.keys v).idxOf key]?
    | _ => none).or (p.default? key)

/-- The whole graph is no array, and no array has more items than its record has members. -/
def Fits (p : Part) : Value → Prop
  | .object _ => True
  | .array vs => match p with
    | graph => False
    | p => vs.length ≤ (p.members (.array vs)).length
  | _ => False

end Part

/-! ### Single members -/

/-- There is a value, and it is decoded into the given one. -/
def Yields {α : Type} (decode : Value → Except Misfit α) (o : Option Value) (a : α) : Prop :=
  ∃ v, o = some v ∧ decode v = .ok a

section Members

variable {α : Type} {decode : Value → Except Misfit α} {ms : List Member} {vs : List Value}
  {key : String} {i : Nat} {whole : String} {a b : α} {v : Value}

theorem yields_some : Yields decode (some v) a ↔ decode v = .ok a := by simp [Yields]

theorem required_eq_ok_iff {o : Option α} : required key o = .ok a ↔ o = some a := by
  cases o <;> simp [required]

theorem optional_eq_some_iff : optional ms key decode = .ok (some a) ↔
    Yields decode ((Value.object ms).member? key) a := by
  rw [Json.optional, Value.member?, Yields]
  cases ms.find? (·.1 == key) with
  | none => simp
  | some m => cases h : decode m.2 <;> simp [Except.map, h]

/-- A member that may be left out counts as its default then. -/
theorem optional_getD_iff (hv : decode v = .ok b) :
    (∃ o, optional ms key decode = .ok o ∧ o.getD b = a) ↔
      Yields decode (some (((Value.object ms).member? key).getD v)) a := by
  rw [Json.optional, Value.member?, Yields]
  cases ms.find? (·.1 == key) with
  | none => simp [hv]
  | some m => cases h : decode m.2 <;> simp [Except.map, h]

theorem item_eq_ok_iff : item vs i whole decode = .ok a ↔ Yields decode vs[i]? a := by
  rw [item, Yields]
  cases vs[i]? <;> simp

theorem itemOr_eq_ok_iff (hv : decode v = .ok b) :
    itemOr vs i b decode = .ok a ↔ Yields decode (some (vs[i]?.getD v)) a := by
  rw [itemOr, Yields]
  cases vs[i]? <;> simp [hv]

theorem noMore_eq_ok_iff {n : Nat} : (∃ u, noMore vs n = .ok u) ↔ vs.length ≤ n := by
  rw [noMore]
  split_ifs with h <;> simp [h]

end Members

end Blueprint.Snapshot
