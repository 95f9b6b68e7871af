import Blueprint.Graph.Basic
import Blueprint.Json.Decode

/-!
# Graphs from JSON

How each part of a snapshot is decoded. Keys that a record does not declare are passed over. The
fields of an entity carry their kind as a tag, in the member `kind` or in front of an array.
-/

namespace Blueprint

open Json

def Primitive.decode (unit : Value → Bool) (v : Value) : Except Misfit Primitive := do
  let name ← decodeName (Primitive.all.map Primitive.name) unit v
  required name (Primitive.ofName? name)

def NodeId.decode (v : Value) : Except Misfit NodeId := (decodeString v).map NodeId.mk

def Field.decode : Value → Except Misfit Field
  | .object ms => do
    let name ← optional ms "name" decodeString
    let type ← optional ms "type" (Primitive.decode isNull)
    return ⟨← required "name" name, ← required "type" type⟩
  | .array vs => do
    let whole := "struct Field with 2 elements"
    let name ← item vs 0 whole decodeString
    let type ← item vs 1 whole (Primitive.decode isNull)
    noMore vs 2
    return ⟨name, type⟩
  | v => refuse v "struct Field"

def ValueObject.decode : Value → Except Misfit ValueObject
  | .object ms => do
    let fields ← optional ms "fields" (decodeList Field.decode)
    let id ← optional ms "id" NodeId.decode
    let name ← optional ms "name" decodeString
    return ⟨← required "id" id, ← required "name" name, fields.getD []⟩
  | .array vs => do
    let whole := "struct ValueObject with 3 elements"
    let id ← item vs 0 whole NodeId.decode
    let name ← item vs 1 whole decodeString
    let fields ← itemOr vs 2 [] (decodeList Field.decode)
    noMore vs 3
    return ⟨id, name, fields⟩
  | v => refuse v "struct ValueObject"

namespace EntityField

def tags : List String := ["primitive", "vo"]

def decodeTag : Value → Except Misfit String
  | .string s => if tags.contains s then .ok s else .error (.unknownVariant s tags)
  | v => refuse v "variant identifier"

def ofMembers (tag : String) (ms : List Member) : Except Misfit EntityField := do
  let name ← optional ms "name" decodeString
  if tag = "primitive" then
    let type ← optional ms "type" (Primitive.decode isNothing)
    return .primitive (← required "name" name) (← required "type" type)
  else
    let target ← optional ms "voId" NodeId.decode
    return .valueObject (← required "name" name) (← required "voId" target)

def noMoreItems (vs : List Value) : Except Misfit Unit :=
  if vs.length ≤ 2 then .ok () else .error (.wrongLength vs.length "2 elements in sequence")

def ofItems (tag : String) (vs : List Value) : Except Misfit EntityField := do
  if tag = "primitive" then
    let whole := "struct variant EntityField::Primitive with 2 elements"
    let name ← item vs 0 whole decodeString
    let type ← item vs 1 whole (Primitive.decode isNothing)
    noMoreItems vs
    return .primitive name type
  else
    let whole := "struct variant EntityField::ValueObject with 2 elements"
    let name ← item vs 0 whole decodeString
    let target ← item vs 1 whole NodeId.decode
    noMoreItems vs
    return .valueObject name target

def decode : Value → Except Misfit EntityField
  | .object ms => do
    let tag ← optional ms "kind" decodeTag
    ofMembers (← required "kind" tag) ms
  | .array [] => .error (.missingField "kind")
  | .array (tag :: vs) => do ofItems (← decodeTag tag) vs
  | v => refuse v "internally tagged enum EntityField"

end EntityField

def Entity.decode : Value → Except Misfit Entity
  | .object ms => do
    let fields ← optional ms "fields" (decodeList EntityField.decode)
    let id ← optional ms "id" NodeId.decode
    let idType ← optional ms "idType" (Primitive.decode isNull)
    let name ← optional ms "name" decodeString
    return ⟨← required "id" id, ← required "name" name, ← required "idType" idType,
      fields.getD []⟩
  | .array vs => do
    let whole := "struct Entity with 4 elements"
    let id ← item vs 0 whole NodeId.decode
    let name ← item vs 1 whole decodeString
    let idType ← item vs 2 whole (Primitive.decode isNull)
    let fields ← itemOr vs 3 [] (decodeList EntityField.decode)
    noMore vs 4
    return ⟨id, name, idType, fields⟩
  | v => refuse v "struct Entity"

def Aggregate.decode : Value → Except Misfit Aggregate
  | .object ms => do
    let members ← optional ms "entityIds" (decodeList NodeId.decode)
    let id ← optional ms "id" NodeId.decode
    let invariants ← optional ms "invariants" (decodeList decodeString)
    let name ← optional ms "name" decodeString
    let root ← optional ms "rootEntityId" NodeId.decode
    return ⟨← required "id" id, ← required "name" name, ← required "rootEntityId" root,
      members.getD [], invariants.getD []⟩
  | .array vs => do
    let whole := "struct Aggregate with 5 elements"
    let id ← item vs 0 whole NodeId.decode
    let name ← item vs 1 whole decodeString
    let root ← item vs 2 whole NodeId.decode
    let members ← itemOr vs 3 [] (decodeList NodeId.decode)
    let invariants ← itemOr vs 4 [] (decodeList decodeString)
    noMore vs 5
    return ⟨id, name, root, members, invariants⟩
  | v => refuse v "struct Aggregate"

def Method.decode : Value → Except Misfit Method
  | .object ms => do
    let name ← optional ms "name" decodeString
    let signature ← optional ms "signature" decodeString
    return ⟨← required "name" name, ← required "signature" signature⟩
  | .array vs => do
    let whole := "struct RepositoryMethod with 2 elements"
    let name ← item vs 0 whole decodeString
    let signature ← item vs 1 whole decodeString
    noMore vs 2
    return ⟨name, signature⟩
  | v => refuse v "struct RepositoryMethod"

def Repository.decode : Value → Except Misfit Repository
  | .object ms => do
    let id ← optional ms "id" NodeId.decode
    let methods ← optional ms "methods" (decodeList Method.decode)
    let name ← optional ms "name" decodeString
    return ⟨← required "id" id, ← required "name" name, methods.getD []⟩
  | .array vs => do
    let whole := "struct Repository with 3 elements"
    let id ← item vs 0 whole NodeId.decode
    let name ← item vs 1 whole decodeString
    let methods ← itemOr vs 2 [] (decodeList Method.decode)
    noMore vs 3
    return ⟨id, name, methods⟩
  | v => refuse v "struct Repository"

def Shape.decode : Value → Except Misfit Shape
  | .object ms => do
    let fields ← optional ms "fields" (decodeList Field.decode)
    let name ← optional ms "name" decodeString
    return ⟨← required "name" name, fields.getD []⟩
  | .array vs => do
    let name ← item vs 0 "struct IoShape with 2 elements" decodeString
    let fields ← itemOr vs 1 [] (decodeList Field.decode)
    noMore vs 2
    return ⟨name, fields⟩
  | v => refuse v "struct IoShape"

def UseCase.decode : Value → Except Misfit UseCase
  | .object ms => do
    let id ← optional ms "id" NodeId.decode
    let input ← optional ms "input" Shape.decode
    let name ← optional ms "name" decodeString
    let output ← optional ms "output" Shape.decode
    let reads ← optional ms "reads" (decodeList NodeId.decode)
    let repositories ← optional ms "repoIds" (decodeList NodeId.decode)
    let writes ← optional ms "writes" (decodeList NodeId.decode)
    return ⟨← required "id" id, ← required "name" name, ← required "input" input,
      ← required "output" output, repositories.getD [], reads.getD [], writes.getD []⟩
  | .array vs => do
    let whole := "struct UseCase with 7 elements"
    let id ← item vs 0 whole NodeId.decode
    let name ← item vs 1 whole decodeString
    let input ← item vs 2 whole Shape.decode
    let output ← item vs 3 whole Shape.decode
    let repositories ← itemOr vs 4 [] (decodeList NodeId.decode)
    let reads ← itemOr vs 5 [] (decodeList NodeId.decode)
    let writes ← itemOr vs 6 [] (decodeList NodeId.decode)
    noMore vs 7
    return ⟨id, name, input, output, repositories, reads, writes⟩
  | v => refuse v "struct UseCase"

def Heading.decode : Value → Except Misfit Heading
  | .object ms => do
    let name ← optional ms "name" decodeString
    let version ← optional ms "version" decodeWord
    return ⟨← required "name" name, version.getD 1⟩
  | .array vs => do
    let name ← item vs 0 "struct GraphMeta with 2 elements" decodeString
    let version ← itemOr vs 1 1 decodeWord
    noMore vs 2
    return ⟨name, version⟩
  | v => refuse v "struct GraphMeta"

def Graph.decode : Value → Except Misfit Graph
  | .object ms => do
    let aggregates ← optional ms "aggregates" (decodeList Aggregate.decode)
    let entities ← optional ms "entities" (decodeList Entity.decode)
    let heading ← optional ms "meta" Heading.decode
    let repositories ← optional ms "repositories" (decodeList Repository.decode)
    let useCases ← optional ms "useCases" (decodeList UseCase.decode)
    let valueObjects ← optional ms "valueObjects" (decodeList ValueObject.decode)
    return ⟨valueObjects.getD [], entities.getD [], aggregates.getD [], repositories.getD [],
      useCases.getD [], ← required "meta" heading⟩
  | v => refuse v "struct DomainGraph"

/-- Decodes a block of a kind. -/
def Kind.decode : (k : Kind) → Value → Except Misfit k.Node
  | .valueObject => ValueObject.decode
  | .entity => Entity.decode
  | .aggregate => Aggregate.decode
  | .repository => Repository.decode
  | .useCase => UseCase.decode

end Blueprint
