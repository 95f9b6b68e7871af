import Blueprint.Proofs.Keyed
import Blueprint.Toml.Document

/-!
# Overlays of tables

Tables keep their keys in increasing order, whatever is put into them and laid over them. What
stands at a key after a table is laid over another is what the upper one has there, laid over what
the lower one has, or what the lower one has alone.
-/

namespace Blueprint.Toml

variable {key other : String} {v : Value} {ms base : List (String × Value)}

theorem lookup_cons (k : String) (v : Value) (rest : List (String × Value)) :
    lookup key ((k, v) :: rest) = if k = key then some v else lookup key rest := by
  rw [lookup, List.find?_cons]
  by_cases h : k = key
  · simp [h]
  · rw [if_neg h, beq_false_of_ne h, lookup]

theorem insert_eq (key : String) (v : Value) (ms : List (String × Value)) :
    insert key v ms = Keyed.insert key v ms := by
  induction ms with
  | nil => rfl
  | cons m rest ih =>
      obtain ⟨k, w⟩ := m
      rw [insert, Keyed.insert, Keyed.compare_eq, ih]
      split_ifs <;> rfl

theorem lookup_insert : lookup other (insert key v ms) =
    if other = key then some v else lookup other ms := by
  rw [lookup, insert_eq, Keyed.find?_insert, apply_ite (Option.map _)]
  simp only [eq_comm]
  rfl

/-! ### Order -/

/-- Keys increase along a table. -/
def Sorted (ms : List (String × Value)) : Prop := ms.Pairwise fun a b => a.1 < b.1

theorem sorted_nil : Sorted [] := List.Pairwise.nil

theorem Sorted.insert (h : Sorted ms) (key : String) (v : Value) : Sorted (insert key v ms) := by
  rw [insert_eq]
  exact Keyed.Sorted.insert h key v

theorem Sorted.merge (h : Sorted base) (ms : List (String × Value)) : Sorted (merge base ms) := by
  induction ms generalizing base with
  | nil =>
      rw [Toml.merge]
      exact h
  | cons m rest ih =>
      rw [Toml.merge]
      exact ih (h.insert _ _)

theorem Sorted.nodup_keys (h : Sorted ms) : (ms.map Prod.fst).Nodup := Keyed.Sorted.nodup_keys h

theorem lookup_eq_none_of_notMem (h : key ∉ ms.map Prod.fst) : lookup key ms = none := by
  induction ms with
  | nil => rfl
  | cons m rest ih =>
      obtain ⟨k, w⟩ := m
      rw [List.map_cons, List.mem_cons, not_or] at h
      rw [lookup_cons, if_neg (Ne.symm h.1), ih h.2]

/-! ### Overlays -/

@[simp] theorem overlay_scalar (old : Option Value) (x : Scalar) :
    overlay old (.scalar x) = .scalar x := by
  rw [overlay]
  exact fun _ h => nomatch h

theorem overlay_table (gs ms : List (String × Value)) :
    overlay (some (.table gs)) (.table ms) = .table (merge gs ms) := by rw [overlay]

theorem overlay_none_table (ms : List (String × Value)) :
    overlay none (.table ms) = .table ms := by
  rw [overlay]
  exact fun _ h => nomatch h

theorem lookup_merge (h : Sorted ms) : lookup key (merge base ms) =
    ((lookup key ms).map (overlay (lookup key base))).or (lookup key base) := by
  induction ms generalizing base with
  | nil =>
      rw [merge]
      rfl
  | cons m rest ih =>
      obtain ⟨k, v⟩ := m
      rw [merge, ih h.of_cons, lookup_insert, lookup_cons]
      by_cases hk : key = k
      · have hrest : lookup key rest = none :=
          lookup_eq_none_of_notMem (hk ▸ (List.nodup_cons.mp h.nodup_keys).1)
        rw [hrest, if_pos hk, if_pos hk.symm, hk]
        rfl
      · rw [if_neg hk, if_neg (Ne.symm hk)]

/-! ### Values of items -/

namespace Value

/-- The scalar that a value is. -/
def scalar? : Value → Option Scalar
  | .scalar x => some x
  | _ => none

/-- The members of a value that is a table. -/
def members? : Value → Option (List (String × Value))
  | .table ms => some ms
  | _ => none

end Value

namespace Item

/-- The scalar that an item is. -/
def scalar? : Item → Option Scalar
  | .scalar x _ => some x
  | _ => none

def isTable : Item → Bool
  | .table .. => true
  | _ => false

theorem exists_eq_scalar {item : Item} {x : Scalar} (h : item.scalar? = some x) :
    ∃ span, item = .scalar x span := by
  cases item with
  | scalar y span => exact ⟨span, congrArg (Item.scalar · span) (Option.some.inj h)⟩
  | _ => cases h

theorem exists_eq_table {item : Item} (h : item.isTable = true) :
    ∃ kind ms span, item = .table kind ms span := by
  cases item with
  | table kind ms span => exact ⟨kind, ms, span, rfl⟩
  | _ => cases h

/-- The member of a table at a key. -/
def member? (key : String) : Item → Option Item
  | .table _ ms _ => findMember key ms
  | _ => none

/-- The members of a table as values, in the order of their keys. -/
def valueMembers : Item → List (String × Value)
  | .table _ ms _ => members ms
  | _ => []

theorem sorted_members (ms : Members) : Sorted (members ms) := by
  induction ms with
  | nil =>
      rw [members]
      exact sorted_nil
  | cons m rest ih =>
      rw [members]
      exact ih.insert _ _

theorem findMember_cons (k : Key) (item : Item) (rest : Members) :
    findMember key ((k, item) :: rest) =
      if k.name = key then some item else findMember key rest := by
  rw [findMember, List.find?_cons]
  by_cases h : k.name = key
  · simp [h]
  · rw [if_neg h, beq_false_of_ne h, findMember]

theorem lookup_members (ms : Members) :
    lookup key (members ms) = (findMember key ms).map value := by
  induction ms with
  | nil =>
      rw [members]
      rfl
  | cons m rest ih =>
      obtain ⟨k, i⟩ := m
      rw [members, lookup_insert, ih, findMember_cons]
      by_cases hk : key = k.name
      · rw [if_pos hk, if_pos hk.symm, Option.map_some]
      · rw [if_neg hk, if_neg (Ne.symm hk)]

theorem lookup_valueMembers (item : Item) :
    lookup key item.valueMembers = (item.member? key).map value := by
  cases item with
  | table kind ms span => exact lookup_members ms
  | _ => rfl

theorem scalar?_value (item : Item) : item.value.scalar? = item.scalar? := by
  cases item <;> rw [value] <;> rfl

theorem lookup_members?_value (item : Item) :
    item.value.members?.bind (lookup key) = (item.member? key).map value := by
  cases item with
  | table kind ms span =>
      rw [value]
      exact lookup_members ms
  | _ =>
      rw [value]
      rfl

theorem findMember_ofMembers (ms : List (String × Value)) :
    findMember key (ofMembers ms) = (lookup key ms).map ofValue := by
  induction ms with
  | nil =>
      rw [ofMembers]
      rfl
  | cons m rest ih =>
      obtain ⟨k, v⟩ := m
      rw [ofMembers, lookup_cons, findMember_cons, ih]
      by_cases hk : k = key
      · rw [if_pos hk, if_pos hk, Option.map_some]
      · rw [if_neg hk, if_neg hk]

theorem map_name_ofMembers (ms : List (String × Value)) :
    (ofMembers ms).map (·.1.name) = ms.map Prod.fst := by
  induction ms with
  | nil =>
      rw [ofMembers]
      rfl
  | cons m rest ih =>
      obtain ⟨k, v⟩ := m
      rw [ofMembers, List.map_cons, List.map_cons, ih]

theorem exists_lookup_of_mem_ofMembers (h : Sorted ms) {m : Key × Item} (hm : m ∈ ofMembers ms) :
    ∃ v, lookup m.1.name ms = some v ∧ m.2 = ofValue v := by
  induction ms with
  | nil =>
      rw [ofMembers] at hm
      cases hm
  | cons n rest ih =>
      obtain ⟨k, v⟩ := n
      rw [ofMembers, List.mem_cons] at hm
      rcases hm with rfl | hm
      · exact ⟨v, by rw [lookup_cons, if_pos rfl], rfl⟩
      · obtain ⟨w, hw, hitem⟩ := ih h.of_cons hm
        have hne : k ≠ m.1.name := fun heq => by
          have hnone := lookup_eq_none_of_notMem (heq ▸ (List.nodup_cons.mp h.nodup_keys).1)
          rw [hnone] at hw
          cases hw
        exact ⟨w, by rw [lookup_cons, if_neg hne, hw], hitem⟩

end Item

end Blueprint.Toml
