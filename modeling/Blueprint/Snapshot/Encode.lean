import Blueprint.Graph.Edge
import Blueprint.Graph.Finding
import Blueprint.Json.Value

/-!
# Graphs as JSON

The members of an object stand in the order in which its type declares them, and no default is
left out.
-/

namespace Blueprint

open Json

def NodeId.encode (id : NodeId) : Value := .string id.text

def encodeIds (ids : List NodeId) : Value := .array (ids.map NodeId.encode)

def Primitive.encode (p : Primitive) : Value := .string p.name

def Field.encode (f : Field) : Value :=
  .object [("name", .string f.name), ("type", f.type.encode)]

def ValueObject.encode (v : ValueObject) : Value :=
  .object [("id", v.id.encode), ("name", .string v.name),
    ("fields", .array (v.fields.map Field.encode))]

def EntityField.encode : EntityField → Value
  | .primitive name type =>
    .object [("kind", .string "primitive"), ("name", .string name), ("type", type.encode)]
  | .valueObject name target =>
    .object [("kind", .string "vo"), ("name", .string name), ("voId", target.encode)]

def Entity.encode (e : Entity) : Value :=
  .object [("id", e.id.encode), ("name", .string e.name), ("idType", e.idType.encode),
    ("fields", .array (e.fields.map EntityField.encode))]

def Aggregate.encode (a : Aggregate) : Value :=
  .object [("id", a.id.encode), ("name", .string a.name), ("rootEntityId", a.root.encode),
    ("entityIds", encodeIds a.members), ("invariants", .array (a.invariants.map .string))]

def Method.encode (m : Method) : Value :=
  .object [("name", .string m.name), ("signature", .string m.signature)]

def Repository.encode (r : Repository) : Value :=
  .object [("id", r.id.encode), ("name", .string r.name),
    ("methods", .array (r.methods.map Method.encode))]

def Shape.encode (s : Shape) : Value :=
  .object [("name", .string s.name), ("fields", .array (s.fields.map Field.encode))]

def UseCase.encode (u : UseCase) : Value :=
  .object [("id", u.id.encode), ("name", .string u.name), ("input", u.input.encode),
    ("output", u.output.encode), ("repoIds", encodeIds u.repositories),
    ("reads", encodeIds u.reads), ("writes", encodeIds u.writes)]

def Heading.encode (h : Heading) : Value :=
  .object [("name", .string h.name), ("version", .nat h.version.toNat)]

def Graph.encode (g : Graph) : Value :=
  .object [("valueObjects", .array (g.valueObjects.map ValueObject.encode)),
    ("entities", .array (g.entities.map Entity.encode)),
    ("aggregates", .array (g.aggregates.map Aggregate.encode)),
    ("repositories", .array (g.repositories.map Repository.encode)),
    ("useCases", .array (g.useCases.map UseCase.encode)), ("meta", g.heading.encode)]

/-- Encodes a block of a kind. -/
def Kind.encode : (k : Kind) → k.Node → Value
  | .valueObject => ValueObject.encode
  | .entity => Entity.encode
  | .aggregate => Aggregate.encode
  | .repository => Repository.encode
  | .useCase => UseCase.encode

def Edge.encode (e : Edge) : Value :=
  .object [("source", e.source.encode), ("target", e.target.encode), ("kind", .string e.kind.tag)]

def Finding.encode (f : Finding) : Value :=
  .object [("nodeId", f.node.encode), ("message", .string f.message),
    ("severity", .string f.severity.name)]

end Blueprint
