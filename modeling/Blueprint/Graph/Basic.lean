/-!
# Domain graphs

A design consists of building blocks of five kinds. `Kind.Node` gives the type of the blocks of a
kind and `Graph.nodes` their list, so that what holds of every kind is said once. Blocks refer to
each other by identifiers, which are opaque and need not resolve.
-/

namespace Blueprint

structure NodeId where
  text : String
  deriving DecidableEq, Inhabited

inductive Kind where
  | valueObject
  | entity
  | aggregate
  | repository
  | useCase
  deriving DecidableEq, Inhabited

namespace Kind

def all : List Kind := [.valueObject, .entity, .aggregate, .repository, .useCase]

def tag : Kind → String
  | .valueObject => "valueObject"
  | .entity => "entity"
  | .aggregate => "aggregate"
  | .repository => "repository"
  | .useCase => "useCase"

def title : Kind → String
  | .valueObject => "Value Object"
  | .entity => "Entity"
  | .aggregate => "Aggregate"
  | .repository => "Repository"
  | .useCase => "Use Case"

def ofTag? (s : String) : Option Kind := all.find? (·.tag == s)

end Kind

/-- The scalar types of fields. -/
inductive Primitive where
  | string
  | int
  | decimal
  | guid
  | dateTime
  | bool
  deriving DecidableEq, Inhabited

namespace Primitive

def all : List Primitive := [.string, .int, .decimal, .guid, .dateTime, .bool]

def name : Primitive → String
  | .string => "string"
  | .int => "int"
  | .decimal => "decimal"
  | .guid => "Guid"
  | .dateTime => "DateTime"
  | .bool => "bool"

def ofName? (s : String) : Option Primitive := all.find? (·.name == s)

end Primitive

structure Field where
  name : String
  type : Primitive
  deriving DecidableEq, Inhabited

structure ValueObject where
  id : NodeId
  name : String
  fields : List Field
  deriving DecidableEq, Inhabited

/-- A field of an entity holds a scalar or a value object. -/
inductive EntityField where
  | primitive (name : String) (type : Primitive)
  | valueObject (name : String) (target : NodeId)
  deriving DecidableEq, Inhabited

namespace EntityField

def name : EntityField → String
  | .primitive name _ => name
  | .valueObject name _ => name

def target? : EntityField → Option NodeId
  | .primitive _ _ => none
  | .valueObject _ target => some target

end EntityField

structure Entity where
  id : NodeId
  name : String
  idType : Primitive
  fields : List EntityField
  deriving DecidableEq, Inhabited

def Entity.targets (e : Entity) : List NodeId := e.fields.filterMap EntityField.target?

structure Aggregate where
  id : NodeId
  name : String
  root : NodeId
  members : List NodeId
  invariants : List String
  deriving DecidableEq, Inhabited

structure Method where
  name : String
  signature : String
  deriving DecidableEq, Inhabited

structure Repository where
  id : NodeId
  name : String
  methods : List Method
  deriving DecidableEq, Inhabited

/-- The data that a use case takes or gives. -/
structure Shape where
  name : String
  fields : List Field
  deriving DecidableEq, Inhabited

structure UseCase where
  id : NodeId
  name : String
  input : Shape
  output : Shape
  repositories : List NodeId
  reads : List NodeId
  writes : List NodeId
  deriving DecidableEq, Inhabited

def UseCase.targets (u : UseCase) : List NodeId := u.reads ++ u.writes

structure Heading where
  name : String
  version : UInt32
  deriving DecidableEq, Inhabited

structure Graph where
  valueObjects : List ValueObject
  entities : List Entity
  aggregates : List Aggregate
  repositories : List Repository
  useCases : List UseCase
  heading : Heading
  deriving DecidableEq, Inhabited

namespace Kind

abbrev Node : Kind → Type
  | .valueObject => ValueObject
  | .entity => Entity
  | .aggregate => Aggregate
  | .repository => Repository
  | .useCase => UseCase

def nodeId : (k : Kind) → k.Node → NodeId
  | .valueObject, n => ValueObject.id n
  | .entity, n => Entity.id n
  | .aggregate, n => Aggregate.id n
  | .repository, n => Repository.id n
  | .useCase, n => UseCase.id n

def nodeName : (k : Kind) → k.Node → String
  | .valueObject, n => ValueObject.name n
  | .entity, n => Entity.name n
  | .aggregate, n => Aggregate.name n
  | .repository, n => Repository.name n
  | .useCase, n => UseCase.name n

def withId : (k : Kind) → NodeId → k.Node → k.Node
  | .valueObject, id, n => { n with id := id : ValueObject }
  | .entity, id, n => { n with id := id : Entity }
  | .aggregate, id, n => { n with id := id : Aggregate }
  | .repository, id, n => { n with id := id : Repository }
  | .useCase, id, n => { n with id := id : UseCase }

@[simp] theorem nodeId_withId (k : Kind) (id : NodeId) (n : k.Node) :
    k.nodeId (k.withId id n) = id := by cases k <;> rfl

@[simp] theorem nodeName_withId (k : Kind) (id : NodeId) (n : k.Node) :
    k.nodeName (k.withId id n) = k.nodeName n := by cases k <;> rfl

end Kind

namespace Graph

def defaultName : String := "Untitled Project"

/-- The graph without blocks, in its first version. -/
def empty (name : String) : Graph := ⟨[], [], [], [], [], ⟨name, 1⟩⟩

def nodes (g : Graph) : (k : Kind) → List k.Node
  | .valueObject => g.valueObjects
  | .entity => g.entities
  | .aggregate => g.aggregates
  | .repository => g.repositories
  | .useCase => g.useCases

def setNodes (g : Graph) : (k : Kind) → List k.Node → Graph
  | .valueObject, ns => { g with valueObjects := ns }
  | .entity, ns => { g with entities := ns }
  | .aggregate, ns => { g with aggregates := ns }
  | .repository, ns => { g with repositories := ns }
  | .useCase, ns => { g with useCases := ns }

@[simp] theorem nodes_setNodes (g : Graph) (k : Kind) (ns : List k.Node) :
    (g.setNodes k ns).nodes k = ns := by cases k <;> rfl

theorem nodes_setNodes_of_ne (g : Graph) {k l : Kind} (h : l ≠ k) (ns : List k.Node) :
    (g.setNodes k ns).nodes l = g.nodes l := by cases k <;> cases l <;> first | rfl | contradiction

@[simp] theorem heading_setNodes (g : Graph) (k : Kind) (ns : List k.Node) :
    (g.setNodes k ns).heading = g.heading := by cases k <;> rfl

def ids (g : Graph) (k : Kind) : List NodeId := (g.nodes k).map k.nodeId

def count (g : Graph) (k : Kind) : Nat := (g.nodes k).length

def nodeCount (g : Graph) : Nat := Kind.all.foldl (fun n k => n + g.count k) 0

def isEmpty (g : Graph) : Bool := g.nodeCount == 0

/-! ### Lookups -/

/-- The first block of a kind with an identifier. -/
def find? (g : Graph) (k : Kind) (id : NodeId) : Option k.Node :=
  (g.nodes k).find? (k.nodeId · == id)

def has (g : Graph) (k : Kind) (id : NodeId) : Bool := (g.ids k).contains id

/-- The first kind that has a block with the identifier. -/
def kind? (g : Graph) (id : NodeId) : Option Kind := Kind.all.find? fun k => (g.find? k id).isSome

def name? (g : Graph) (id : NodeId) : Option String :=
  (g.kind? id).bind fun k => (g.find? k id).map k.nodeName

end Graph

end Blueprint
