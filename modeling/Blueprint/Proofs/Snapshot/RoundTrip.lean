import Blueprint.Proofs.Except
import Blueprint.Proofs.Json.Members
import Blueprint.Proofs.Json.RoundTrip
import Blueprint.Snapshot.Text

/-!
# Snapshots are read back

Every part of a graph is decoded from its own encoding, also after the members of objects have
been sorted. A graph nests six containers, far from the limit of the reader.
-/

namespace Blueprint

open Json

theorem decodeList_normal {α : Type} {encode : α → Value} {decode : Value → Except Misfit α}
    (h : ∀ a, decode (normal (encode a)) = .ok a) (as : List α) :
    decodeList decode (normal (.array (as.map encode))) = .ok as := by
  rw [normal, normalItems_eq_map, decodeList]
  induction as with
  | nil => rfl
  | cons a as ih =>
      simp only [List.map_cons, List.mapM_cons, h, ih, bind, Except.bind, pure, Except.pure]

theorem NodeId.decode_normal (id : NodeId) : NodeId.decode (normal id.encode) = .ok id := rfl

theorem decodeString_normal (s : String) : decodeString (normal (.string s)) = .ok s := rfl

theorem decodeIds_normal (ids : List NodeId) :
    decodeList NodeId.decode (normal (encodeIds ids)) = .ok ids :=
  decodeList_normal NodeId.decode_normal ids

theorem Primitive.decode_normal (unit : Value → Bool) (p : Primitive) :
    Primitive.decode unit (normal p.encode) = .ok p := by cases p <;> rfl

theorem decodeWord_normal (n : UInt32) : decodeWord (normal (.nat n.toNat)) = .ok n := by
  have hn : (UInt64.ofNat n.toNat).toNat = n.toNat := by
    rw [UInt64.toNat_ofNat_of_lt']
    exact Nat.lt_trans n.toNat_lt (by decide)
  simp only [Value.nat, normal, decodeWord, hn, if_pos n.toNat_lt]
  congr 1
  exact UInt32.toNat_inj.mp (by rw [UInt64.toNat_toUInt32, hn, Nat.mod_eq_of_lt n.toNat_lt])

/-! ### Records -/

section Members

variable {α : Type} (decode : Value → Except Misfit α) (key : String) (ms : List Member)

@[simp] theorem optional_cons_self (v : Value) :
    optional ((key, v) :: ms) key decode = some <$> decode v := by
  simp only [Json.optional, List.find?_cons, beq_self_eq_true]
  rfl

@[simp] theorem optional_cons_of_ne {k : String} (h : k ≠ key) (v : Value) :
    optional ((k, v) :: ms) key decode = optional ms key decode := by simp [Json.optional, h]

@[simp] theorem required_some (a : α) : required key (some a) = .ok a := rfl

end Members

@[simp] theorem normal_object (ms : List Member) :
    normal (.object ms) = .object (sortMembers (normalMembers ms)) := rfl

theorem Field.decode_normal (f : Field) : Field.decode (normal f.encode) = .ok f := by
  simp [Field.encode, Field.decode, normalMembers, optional_sortMembers, decodeString_normal,
    Primitive.decode_normal]

theorem decodeFields_normal (fs : List Field) :
    decodeList Field.decode (normal (.array (fs.map Field.encode))) = .ok fs :=
  decodeList_normal Field.decode_normal fs

theorem ValueObject.decode_normal (v : ValueObject) :
    ValueObject.decode (normal v.encode) = .ok v := by
  simp [ValueObject.encode, ValueObject.decode, normalMembers, optional_sortMembers,
    decodeString_normal, NodeId.decode_normal, decodeFields_normal]

theorem EntityField.decode_normal (f : EntityField) :
    EntityField.decode (normal f.encode) = .ok f := by
  cases f with
  | primitive name type =>
      have htag : EntityField.decodeTag (normal (.string "primitive")) = .ok "primitive" := by
        simp [normal, decodeTag, tags]
      simp [EntityField.encode, EntityField.decode, ofMembers, normalMembers, optional_sortMembers,
        decodeString_normal, Primitive.decode_normal, htag]
  | valueObject name target =>
      have htag : EntityField.decodeTag (normal (.string "vo")) = .ok "vo" := by
        simp [normal, decodeTag, tags]
      simp [EntityField.encode, EntityField.decode, ofMembers, normalMembers, optional_sortMembers,
        decodeString_normal, NodeId.decode_normal, htag]

theorem Entity.decode_normal (e : Entity) : Entity.decode (normal e.encode) = .ok e := by
  simp [Entity.encode, Entity.decode, normalMembers, optional_sortMembers, decodeString_normal,
    NodeId.decode_normal, Primitive.decode_normal, decodeList_normal EntityField.decode_normal]

theorem Aggregate.decode_normal (a : Aggregate) : Aggregate.decode (normal a.encode) = .ok a := by
  simp [Aggregate.encode, Aggregate.decode, normalMembers, optional_sortMembers,
    decodeString_normal, NodeId.decode_normal, decodeIds_normal,
    decodeList_normal decodeString_normal]

theorem Method.decode_normal (m : Method) : Method.decode (normal m.encode) = .ok m := by
  simp [Method.encode, Method.decode, normalMembers, optional_sortMembers, decodeString_normal]

theorem Repository.decode_normal (r : Repository) :
    Repository.decode (normal r.encode) = .ok r := by
  simp [Repository.encode, Repository.decode, normalMembers, optional_sortMembers,
    decodeString_normal, NodeId.decode_normal, decodeList_normal Method.decode_normal]

theorem Shape.decode_normal (s : Shape) : Shape.decode (normal s.encode) = .ok s := by
  simp [Shape.encode, Shape.decode, normalMembers, optional_sortMembers, decodeString_normal,
    decodeFields_normal]

theorem UseCase.decode_normal (u : UseCase) : UseCase.decode (normal u.encode) = .ok u := by
  simp [UseCase.encode, UseCase.decode, normalMembers, optional_sortMembers, decodeString_normal,
    NodeId.decode_normal, decodeIds_normal, Shape.decode_normal]

theorem Heading.decode_normal (h : Heading) : Heading.decode (normal h.encode) = .ok h := by
  simp [Heading.encode, Heading.decode, normalMembers, optional_sortMembers, decodeString_normal,
    decodeWord_normal]

theorem Graph.decode_normal (g : Graph) : Graph.decode (normal g.encode) = .ok g := by
  simp [Graph.encode, Graph.decode, normalMembers, optional_sortMembers, Heading.decode_normal,
    decodeList_normal ValueObject.decode_normal, decodeList_normal Entity.decode_normal,
    decodeList_normal Aggregate.decode_normal, decodeList_normal Repository.decode_normal,
    decodeList_normal UseCase.decode_normal]

/-! ### Nesting -/

theorem plain_list {α : Type} {encode : α → Value} {depth : Nat}
    (h : ∀ a, Plain depth (encode a)) (as : List α) :
    Plain (depth + 1) (.array (as.map encode)) := by
  apply Plain.array
  intro v hv
  obtain ⟨a, _, rfl⟩ := List.mem_map.mp hv
  exact h a

section Nesting

variable (depth : Nat)

theorem NodeId.plain_encode (id : NodeId) : Plain depth id.encode := .string depth id.text

theorem plain_encodeIds (ids : List NodeId) : Plain (depth + 1) (encodeIds ids) :=
  plain_list (NodeId.plain_encode depth) ids

theorem Primitive.plain_encode (p : Primitive) : Plain depth p.encode := .string depth p.name

theorem Field.plain_encode (f : Field) : Plain (depth + 1) f.encode := by
  apply Plain.object
  simp [Plain.string, Primitive.plain_encode]

theorem plain_encodeFields (fs : List Field) : Plain (depth + 2) (.array (fs.map Field.encode)) :=
  plain_list (Field.plain_encode depth) fs

theorem ValueObject.plain_encode (v : ValueObject) : Plain (depth + 3) v.encode := by
  apply Plain.object
  simp [Plain.string, NodeId.plain_encode, plain_encodeFields]

theorem EntityField.plain_encode (f : EntityField) : Plain (depth + 1) f.encode := by
  cases f <;> apply Plain.object <;>
    simp [Plain.string, Primitive.plain_encode, NodeId.plain_encode]

theorem Entity.plain_encode (e : Entity) : Plain (depth + 3) e.encode := by
  apply Plain.object
  simp [Plain.string, NodeId.plain_encode, Primitive.plain_encode,
    plain_list (EntityField.plain_encode depth)]

theorem Aggregate.plain_encode (a : Aggregate) : Plain (depth + 2) a.encode := by
  apply Plain.object
  simp [Plain.string, NodeId.plain_encode, plain_encodeIds, plain_list (Plain.string depth)]

theorem Method.plain_encode (m : Method) : Plain (depth + 1) m.encode := by
  apply Plain.object
  simp [Plain.string]

theorem Repository.plain_encode (r : Repository) : Plain (depth + 3) r.encode := by
  apply Plain.object
  simp [Plain.string, NodeId.plain_encode, plain_list (Method.plain_encode depth)]

theorem Shape.plain_encode (s : Shape) : Plain (depth + 3) s.encode := by
  apply Plain.object
  simp [Plain.string, plain_encodeFields]

theorem UseCase.plain_encode (u : UseCase) : Plain (depth + 4) u.encode := by
  apply Plain.object
  simp [Plain.string, NodeId.plain_encode, plain_encodeIds (depth + 2), Shape.plain_encode]

theorem Heading.plain_encode (h : Heading) : Plain (depth + 1) h.encode := by
  apply Plain.object
  simp [Plain.string, Value.nat, Plain.nat]

theorem Graph.plain_encode (g : Graph) : Plain (depth + 6) g.encode := by
  apply Plain.object
  simp [Heading.plain_encode (depth + 4), plain_list (ValueObject.plain_encode (depth + 1)),
    plain_list (Entity.plain_encode (depth + 1)), plain_list (Aggregate.plain_encode (depth + 2)),
    plain_list (Repository.plain_encode (depth + 1)), plain_list (UseCase.plain_encode depth)]

end Nesting

/-! ### Texts -/

namespace Snapshot

theorem isNamed_normal (g : Graph) : isNamed (normal g.encode) = !g.heading.name.isEmpty := by
  simp [Graph.encode, Heading.encode, isNamed, normal, normalMembers, Value.record,
    find?_sortMembers, Value.member?, Value.string?]

theorem parse_write (g : Graph) : Value.parse (write g) = .ok (normal g.encode) :=
  Value.parse_pretty (g.plain_encode 121)

theorem read_write (g : Graph) :
    read (write g) = if g.heading.name = "" then .error .unnamed else .ok g := by
  rw [read, parse_write]
  change ofValue (normal g.encode) = _
  rw [ofValue, isNamed_normal, g.decode_normal]
  by_cases hname : g.heading.name = ""
  · simp [hname]
  · have hempty : g.heading.name.isEmpty = false := by simpa using hname
    rw [if_neg hname, hempty]
    rfl

/-- A graph is read back from its snapshot, in every part and order, when its heading has a name,
and refused for the missing name otherwise. -/
theorem load_write (g : Graph) :
    load (write g) = if g.heading.name = "" then .error .unnamedSnapshot else .ok g := by
  have hread : read (write g) = ofValue (normal g.encode) := by
    rw [read, parse_write]
    rfl
  rw [load, hread, ofValue, isNamed_normal]
  by_cases hname : g.heading.name = ""
  · rw [if_pos hname, hname]
    rfl
  · have hempty : g.heading.name.isEmpty = false := by simpa using hname
    rw [if_neg hname, hempty, g.decode_normal]
    rfl

end Snapshot

end Blueprint
