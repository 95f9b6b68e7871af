import Blueprint.Proofs.Snapshot.Part

/-!
# Records member by member

A record is decoded when each declared member, or its default, is decoded for itself and no array
is too long. This holds of objects and of arrays alike, and of entity fields for the members that
their tag selects.
-/

namespace Blueprint

open Json Snapshot

section Records

attribute [local simp] Part.value? Part.default? Part.defaults Part.Fits Part.keys Part.members
  bind_eq_ok_iff required_eq_ok_iff optional_eq_some_iff item_eq_ok_iff noMore_eq_ok_iff
  pure Except.pure refuse

variable {v : Value}

/-- A list that is left out is the empty one. -/
theorem decodeList_nil {α : Type} (item : Value → Except Misfit α) :
    decodeList item (.array []) = .ok [] := rfl

theorem Field.decode_eq_ok_iff {f : Field} : Field.decode v = .ok f ↔
    Yields decodeString (Part.field.value? v "name") f.name ∧
      Yields (Primitive.decode isNull) (Part.field.value? v "type") f.type ∧
      Part.field.Fits v := by
  obtain ⟨name, type⟩ := f
  cases v with
  | object ms => simp [Field.decode]
  | array vs => simp [Field.decode]
  | _ => simp [Field.decode]

theorem ValueObject.decode_eq_ok_iff {n : ValueObject} : ValueObject.decode v = .ok n ↔
    Yields NodeId.decode (Part.valueObject.value? v "id") n.id ∧
      Yields decodeString (Part.valueObject.value? v "name") n.name ∧
      Yields (decodeList Field.decode) (Part.valueObject.value? v "fields") n.fields ∧
      Part.valueObject.Fits v := by
  obtain ⟨id, name, fields⟩ := n
  have hnil := decodeList_nil Field.decode
  cases v with
  | object ms =>
      simp [ValueObject.decode, ← optional_getD_iff hnil]
      grind
  | array vs => simp [ValueObject.decode, itemOr_eq_ok_iff hnil]
  | _ => simp [ValueObject.decode]

namespace EntityField

def tag : EntityField → String
  | .primitive _ _ => "primitive"
  | .valueObject _ _ => "vo"

theorem decodeTag_eq_ok_iff {tag : String} :
    decodeTag v = .ok tag ↔ v = .string tag ∧ (tag = "primitive" ∨ tag = "vo") := by
  cases v with
  | string s =>
      simp only [decodeTag, tags, List.contains_eq_mem, List.mem_cons, List.not_mem_nil, or_false,
        decide_eq_true_eq]
      grind
  | _ => simp [decodeTag]

theorem noMoreItems_eq_ok_iff {vs : List Value} :
    (∃ u, noMoreItems vs = .ok u) ↔ vs.length ≤ 2 := by
  rw [noMoreItems]
  split_ifs with h <;> simp [h]

theorem decode_eq_ok_iff {f : EntityField} : EntityField.decode v = .ok f ↔
    Yields decodeTag (Part.entityField.value? v "kind") f.tag ∧
      Yields decodeString (Part.entityField.value? v "name") f.name ∧
      Part.entityField.Fits v ∧ match f with
      | .primitive _ type =>
        Yields (Primitive.decode isNothing) (Part.entityField.value? v "type") type
      | .valueObject _ target =>
        Yields NodeId.decode (Part.entityField.value? v "voId") target := by
  cases v with
  | object ms =>
      cases f <;> simp [EntityField.decode, ofMembers, Yields, decodeTag_eq_ok_iff, tag, name,
        and_or_left, exists_or, or_and_right]
  | array vs =>
      cases vs with
      | nil => simp [EntityField.decode, Yields]
      | cons t vs =>
          cases h : decodeTag t with
          | error e => simp [EntityField.decode, Yields, h]
          | ok read =>
              obtain ⟨rfl, rfl | rfl⟩ := decodeTag_eq_ok_iff.mp h
              all_goals
                cases f <;> simp [EntityField.decode, ofItems, h, Yields, tag, name,
                  noMoreItems_eq_ok_iff, Part.tag?, Value.string?]
                grind
  | _ => simp [EntityField.decode]

end EntityField

theorem Entity.decode_eq_ok_iff {e : Entity} : Entity.decode v = .ok e ↔
    Yields NodeId.decode (Part.entity.value? v "id") e.id ∧
      Yields decodeString (Part.entity.value? v "name") e.name ∧
      Yields (Primitive.decode isNull) (Part.entity.value? v "idType") e.idType ∧
      Yields (decodeList EntityField.decode) (Part.entity.value? v "fields") e.fields ∧
      Part.entity.Fits v := by
  obtain ⟨id, name, idType, fields⟩ := e
  have hnil := decodeList_nil EntityField.decode
  cases v with
  | object ms =>
      simp [Entity.decode, ← optional_getD_iff hnil]
      grind
  | array vs => simp [Entity.decode, itemOr_eq_ok_iff hnil]
  | _ => simp [Entity.decode]

theorem Aggregate.decode_eq_ok_iff {a : Aggregate} : Aggregate.decode v = .ok a ↔
    Yields NodeId.decode (Part.aggregate.value? v "id") a.id ∧
      Yields decodeString (Part.aggregate.value? v "name") a.name ∧
      Yields NodeId.decode (Part.aggregate.value? v "rootEntityId") a.root ∧
      Yields (decodeList NodeId.decode) (Part.aggregate.value? v "entityIds") a.members ∧
      Yields (decodeList decodeString) (Part.aggregate.value? v "invariants") a.invariants ∧
      Part.aggregate.Fits v := by
  obtain ⟨id, name, root, members, invariants⟩ := a
  have hids := decodeList_nil NodeId.decode
  have htexts := decodeList_nil decodeString
  cases v with
  | object ms =>
      simp [Aggregate.decode, ← optional_getD_iff hids, ← optional_getD_iff htexts]
      grind
  | array vs =>
      simp [Aggregate.decode, itemOr_eq_ok_iff hids, itemOr_eq_ok_iff htexts]
  | _ => simp [Aggregate.decode]

theorem Method.decode_eq_ok_iff {m : Method} : Method.decode v = .ok m ↔
    Yields decodeString (Part.method.value? v "name") m.name ∧
      Yields decodeString (Part.method.value? v "signature") m.signature ∧
      Part.method.Fits v := by
  obtain ⟨name, signature⟩ := m
  cases v with
  | object ms => simp [Method.decode]
  | array vs => simp [Method.decode]
  | _ => simp [Method.decode]

theorem Repository.decode_eq_ok_iff {r : Repository} : Repository.decode v = .ok r ↔
    Yields NodeId.decode (Part.repository.value? v "id") r.id ∧
      Yields decodeString (Part.repository.value? v "name") r.name ∧
      Yields (decodeList Method.decode) (Part.repository.value? v "methods") r.methods ∧
      Part.repository.Fits v := by
  obtain ⟨id, name, methods⟩ := r
  have hnil := decodeList_nil Method.decode
  cases v with
  | object ms =>
      simp [Repository.decode, ← optional_getD_iff hnil]
      grind
  | array vs => simp [Repository.decode, itemOr_eq_ok_iff hnil]
  | _ => simp [Repository.decode]

theorem Shape.decode_eq_ok_iff {s : Shape} : Shape.decode v = .ok s ↔
    Yields decodeString (Part.shape.value? v "name") s.name ∧
      Yields (decodeList Field.decode) (Part.shape.value? v "fields") s.fields ∧
      Part.shape.Fits v := by
  obtain ⟨name, fields⟩ := s
  have hnil := decodeList_nil Field.decode
  cases v with
  | object ms =>
      simp [Shape.decode, ← optional_getD_iff hnil]
      grind
  | array vs => simp [Shape.decode, itemOr_eq_ok_iff hnil]
  | _ => simp [Shape.decode]

theorem UseCase.decode_eq_ok_iff {u : UseCase} : UseCase.decode v = .ok u ↔
    Yields NodeId.decode (Part.useCase.value? v "id") u.id ∧
      Yields decodeString (Part.useCase.value? v "name") u.name ∧
      Yields Shape.decode (Part.useCase.value? v "input") u.input ∧
      Yields Shape.decode (Part.useCase.value? v "output") u.output ∧
      Yields (decodeList NodeId.decode) (Part.useCase.value? v "repoIds") u.repositories ∧
      Yields (decodeList NodeId.decode) (Part.useCase.value? v "reads") u.reads ∧
      Yields (decodeList NodeId.decode) (Part.useCase.value? v "writes") u.writes ∧
      Part.useCase.Fits v := by
  obtain ⟨id, name, input, output, repositories, reads, writes⟩ := u
  have hids := decodeList_nil NodeId.decode
  cases v with
  | object ms =>
      simp [UseCase.decode, ← optional_getD_iff hids]
      grind
  | array vs => simp [UseCase.decode, itemOr_eq_ok_iff hids]
  | _ => simp [UseCase.decode]

theorem Heading.decode_eq_ok_iff {h : Heading} : Heading.decode v = .ok h ↔
    Yields decodeString (Part.heading.value? v "name") h.name ∧
      Yields decodeWord (Part.heading.value? v "version") h.version ∧
      Part.heading.Fits v := by
  obtain ⟨name, version⟩ := h
  have hone : decodeWord (.nat 1) = .ok 1 := rfl
  cases v with
  | object ms => simp [Heading.decode, ← optional_getD_iff hone]
  | array vs => simp [Heading.decode, itemOr_eq_ok_iff hone]
  | _ => simp [Heading.decode]

theorem Graph.decode_eq_ok_iff {g : Graph} : Graph.decode v = .ok g ↔
    Yields (decodeList ValueObject.decode) (Part.graph.value? v "valueObjects") g.valueObjects ∧
      Yields (decodeList Entity.decode) (Part.graph.value? v "entities") g.entities ∧
      Yields (decodeList Aggregate.decode) (Part.graph.value? v "aggregates") g.aggregates ∧
      Yields (decodeList Repository.decode) (Part.graph.value? v "repositories") g.repositories ∧
      Yields (decodeList UseCase.decode) (Part.graph.value? v "useCases") g.useCases ∧
      Yields Heading.decode (Part.graph.value? v "meta") g.heading ∧
      Part.graph.Fits v := by
  obtain ⟨valueObjects, entities, aggregates, repositories, useCases, heading⟩ := g
  cases v with
  | object ms =>
      simp [Graph.decode, ← optional_getD_iff (decodeList_nil ValueObject.decode),
        ← optional_getD_iff (decodeList_nil Entity.decode),
        ← optional_getD_iff (decodeList_nil Aggregate.decode),
        ← optional_getD_iff (decodeList_nil Repository.decode),
        ← optional_getD_iff (decodeList_nil UseCase.decode)]
      grind
  | _ => simp [Graph.decode]

end Records

/-! ### Snapshots -/

namespace Snapshot

/-- Once a graph is decoded, only a heading that is no object can keep it from being named. -/
theorem isNamed_iff_of_decode {v : Value} {g : Graph} (h : Graph.decode v = .ok g) : isNamed v ↔
    (∃ ms, v.member? "meta" = some (.object ms)) ∧ g.heading.name ≠ "" := by
  obtain ⟨-, -, -, -, -, ⟨u, hu, hheading⟩, hfits⟩ := Graph.decode_eq_ok_iff.mp h
  cases v with
  | object ms =>
      have hmeta : (Value.object ms).member? "meta" = some u := by
        simpa [Part.value?, Part.default?, Part.defaults] using hu
      rw [isNamed, hmeta, Option.bind_some]
      cases u with
      | object ns =>
          obtain ⟨⟨s, hs, hname⟩, -⟩ := Heading.decode_eq_ok_iff.mp hheading
          have hs : (Value.object ns).member? "name" = some s := by
            simpa [Part.value?, Part.default?, Part.defaults] using hs
          cases s with
          | string s =>
              obtain rfl : s = g.heading.name := by simpa [decodeString] using hname
              simp [hs, Value.string?]
          | _ => cases hname
      | _ => simp [Value.member?]
  | _ => exact hfits.elim

theorem ofValue_eq_ok_iff {v : Value} {g : Graph} :
    ofValue v = .ok g ↔ isNamed v ∧ Graph.decode v = .ok g := by
  rw [ofValue]
  split_ifs with hnamed <;> simp [hnamed, mapError_eq_ok_iff]

theorem load_eq_ok_iff {text : String} {g : Graph} :
    load text = .ok g ↔ ∃ v, Value.parse text = .ok v ∧ ofValue v = .ok g := by
  simp [load, read, mapError_eq_ok_iff, bind_eq_ok_iff]

end Snapshot

end Blueprint
