import Blueprint.Proofs.Json.Line
import Blueprint.Proofs.Snapshot.Records

/-!
# Records that simulate each other

One value simulates another as a part when the members that the part declares are decoded into the
same there. Then the values themselves are. Objects are compared as they are read, where of several
members with one key the last one counts.
-/

namespace Blueprint.Snapshot

open Json

/-! ### Members of objects that have been read -/

section Normal

variable {ms ns : List Member} {key : String}

theorem member?_normal : (normal (.object ms)).member? key =
    (ms.reverse.find? (·.1 == key)).map fun m => normal m.2 := by
  rw [normal, Value.member?_record, normalMembers_eq_map, ← List.map_reverse, List.find?_map,
    Option.map_map]
  rfl

/-- A member counts only when no later one has its key. -/
theorem member?_normal_cons (k : String) (v : Value) :
    (normal (.object ((k, v) :: ms))).member? key =
      ((normal (.object ms)).member? key).or (if k = key then some (normal v) else none) := by
  rw [member?_normal, member?_normal, List.reverse_cons, List.find?_append, Option.map_or]
  congr 1
  by_cases h : k = key <;> simp [h]

theorem member?_normal_perm (hperm : ms.Perm ns) (hnodup : (ms.map Prod.fst).Nodup) :
    (normal (.object ms)).member? key = (normal (.object ns)).member? key := by
  have hreverse : ms.reverse.Perm ns.reverse :=
    ms.reverse_perm.trans (hperm.trans ns.reverse_perm.symm)
  have hns : (ns.reverse.map Prod.fst).Nodup :=
    ((ns.reverse_perm.trans hperm.symm).map Prod.fst).nodup_iff.mpr hnodup
  rw [member?_normal, member?_normal, Keyed.find?_eq_of_perm hreverse hns]

end Normal

namespace Part

variable {p q q' : Part} {v w : Value} {key : String} {ms : List Member}

def IsRecord : Part → Prop
  | leaf _ | list _ => False
  | _ => True

theorem isRecord_of_mem_members {m : String × Part} (h : m ∈ p.members v) : p.IsRecord := by
  cases p with
  | leaf | list => cases h
  | _ => trivial

theorem isRecord_of_mem_defaults {m : Member} (h : m ∈ p.defaults) : p.IsRecord := by
  cases p with
  | leaf | list => cases h
  | _ => trivial

theorem default?_of_mem (h : (key, v) ∈ p.defaults) : p.default? key = some v := by
  have hnodup : (p.defaults.map Prod.fst).Nodup := by cases p <;> simp [defaults]
  rw [default?, (Keyed.find?_eq_some_iff_of_nodup hnodup).mpr ⟨h, rfl⟩]
  rfl

theorem normal_of_mem_defaults (h : (key, v) ∈ p.defaults) : normal v = v := by
  have hdefaults : ∀ m ∈ p.defaults, normal m.2 = m.2 := by
    cases p <;> simp [defaults, normal, normalItems, Value.nat]
  exact hdefaults _ h

theorem nodup_keys : (p.keys v).Nodup := by
  cases p with
  | entityField =>
      simp only [keys, members]
      split_ifs <;> simp
  | _ => simp [keys, members]

theorem mem_keys (h : (key, q) ∈ p.members v) : key ∈ p.keys v := List.mem_map_of_mem h

theorem part_unique (h : (key, q) ∈ p.members v) (h' : (key, q') ∈ p.members v) : q = q' :=
  congrArg Prod.snd (List.inj_on_of_nodup_map nodup_keys h h' rfl)

/-- The members of entity fields have no members themselves. -/
theorem exists_leaf_of_mem (h : (key, q) ∈ entityField.members v) :
    ∃ (α : Type) (decode : Value → Except Misfit α), q = leaf decode := by
  simp only [members, List.mem_cons, Prod.mk.injEq] at h
  split_ifs at h <;> simp at h <;> grind

/-- Only the tag of an entity field selects other members. -/
theorem members_congr (hp : p = entityField → tag? v = tag? w) : p.members v = p.members w := by
  cases p with
  | entityField => simp only [members, hp rfl]
  | _ => rfl

theorem tag?_of_yields {tag : String}
    (h : Yields EntityField.decodeTag (entityField.value? v "kind") tag) : tag? v = some tag := by
  obtain ⟨u, hu, htag⟩ := h
  obtain ⟨rfl, -⟩ := EntityField.decodeTag_eq_ok_iff.mp htag
  cases v with
  | object ms =>
      have hmember : (Value.object ms).member? "kind" = some (.string tag) := by
        simpa [value?, default?, defaults] using hu
      rw [tag?, hmember]
      rfl
  | array vs =>
      cases vs with
      | nil => simp [value?, default?, defaults] at hu
      | cons t vs =>
          obtain rfl : t = .string tag := by
            simpa [value?, default?, defaults, keys, members] using hu
          rfl
  | _ => simp [value?, default?, defaults] at hu

/-- Whatever the members of the first value are decoded into, those of the second are too. -/
structure Simulates (p : Part) (v w : Value) : Prop where
  fits : p.Fits v → p.Fits w
  yields : ∀ {key : String} {q : Part}, (key, q) ∈ p.members v → ∀ {a : q.Carrier},
    Yields q.decode (p.value? v key) a → Yields q.decode (p.value? w key) a

theorem Simulates.get (h : Simulates p v w) (q : Part) {a : q.Carrier}
    (ha : Yields q.decode (p.value? v key) a)
    (hmem : (key, q) ∈ p.members v := by simp [members]) : Yields q.decode (p.value? w key) a :=
  h.yields hmem ha

theorem Simulates.decode (hp : p.IsRecord) (h : Simulates p v w) {a : p.Carrier}
    (ha : p.decode v = .ok a) : p.decode w = .ok a := by
  cases p with
  | leaf | list => exact hp.elim
  | field =>
      obtain ⟨hname, htype, hfits⟩ := Field.decode_eq_ok_iff.mp ha
      exact Field.decode_eq_ok_iff.mpr ⟨h.get name hname, h.get type htype, h.fits hfits⟩
  | valueObject =>
      obtain ⟨hid, hname, hfields, hfits⟩ := ValueObject.decode_eq_ok_iff.mp ha
      exact ValueObject.decode_eq_ok_iff.mpr ⟨h.get id hid, h.get name hname,
        h.get (list field) hfields, h.fits hfits⟩
  | entityField =>
      obtain ⟨htag, hname, hfits, hrest⟩ := EntityField.decode_eq_ok_iff.mp ha
      refine EntityField.decode_eq_ok_iff.mpr ⟨h.get (leaf EntityField.decodeTag) htag,
        h.get name hname, h.fits hfits, ?_⟩
      -- The member that is left to compare depends on the tag.
      have htag := tag?_of_yields htag
      cases a with
      | primitive =>
          exact h.get (leaf (Primitive.decode isNothing)) hrest
            (by simp [members, htag, EntityField.tag])
      | valueObject => exact h.get id hrest (by simp [members, htag, EntityField.tag])
  | entity =>
      obtain ⟨hid, hname, htype, hfields, hfits⟩ := Entity.decode_eq_ok_iff.mp ha
      exact Entity.decode_eq_ok_iff.mpr ⟨h.get id hid, h.get name hname, h.get type htype,
        h.get (list entityField) hfields, h.fits hfits⟩
  | aggregate =>
      obtain ⟨hid, hname, hroot, hmembers, hinvariants, hfits⟩ :=
        Aggregate.decode_eq_ok_iff.mp ha
      exact Aggregate.decode_eq_ok_iff.mpr ⟨h.get id hid, h.get name hname, h.get id hroot,
        h.get (list id) hmembers, h.get (list name) hinvariants, h.fits hfits⟩
  | method =>
      obtain ⟨hname, hsignature, hfits⟩ := Method.decode_eq_ok_iff.mp ha
      exact Method.decode_eq_ok_iff.mpr ⟨h.get name hname, h.get name hsignature, h.fits hfits⟩
  | repository =>
      obtain ⟨hid, hname, hmethods, hfits⟩ := Repository.decode_eq_ok_iff.mp ha
      exact Repository.decode_eq_ok_iff.mpr ⟨h.get id hid, h.get name hname,
        h.get (list method) hmethods, h.fits hfits⟩
  | shape =>
      obtain ⟨hname, hfields, hfits⟩ := Shape.decode_eq_ok_iff.mp ha
      exact Shape.decode_eq_ok_iff.mpr ⟨h.get name hname, h.get (list field) hfields,
        h.fits hfits⟩
  | useCase =>
      obtain ⟨hid, hname, hinput, houtput, hrepositories, hreads, hwrites, hfits⟩ :=
        UseCase.decode_eq_ok_iff.mp ha
      exact UseCase.decode_eq_ok_iff.mpr ⟨h.get id hid, h.get name hname, h.get shape hinput,
        h.get shape houtput, h.get (list id) hrepositories, h.get (list id) hreads,
        h.get (list id) hwrites, h.fits hfits⟩
  | heading =>
      obtain ⟨hname, hversion, hfits⟩ := Heading.decode_eq_ok_iff.mp ha
      exact Heading.decode_eq_ok_iff.mpr ⟨h.get name hname, h.get (leaf decodeWord) hversion,
        h.fits hfits⟩
  | graph =>
      obtain ⟨hvalueObjects, hentities, haggregates, hrepositories, huseCases, hheading, hfits⟩ :=
        Graph.decode_eq_ok_iff.mp ha
      exact Graph.decode_eq_ok_iff.mpr ⟨h.get (list valueObject) hvalueObjects,
        h.get (list entity) hentities, h.get (list aggregate) haggregates,
        h.get (list repository) hrepositories, h.get (list useCase) huseCases,
        h.get heading hheading, h.fits hfits⟩

section Objects

variable {ms ns : List Member}

theorem ne_of_mem_members {k : String} (hkey : k ∉ p.keys v) (hmem : (key, q) ∈ p.members v) :
    k ≠ key := fun h => hkey (h ▸ mem_keys hmem)

theorem Simulates.of_objects (h : ∀ {key : String} {q : Part},
      (key, q) ∈ p.members (normal (.object ms)) → ∀ {a : q.Carrier},
      Yields q.decode (((normal (.object ms)).member? key).or (p.default? key)) a →
      Yields q.decode (((normal (.object ns)).member? key).or (p.default? key)) a) :
    Simulates p (normal (.object ms)) (normal (.object ns)) := ⟨fun _ => trivial, h⟩

theorem Simulates.of_member?_eq (h : ∀ {key : String} {q : Part},
      (key, q) ∈ p.members (normal (.object ms)) →
      ((normal (.object ms)).member? key).or (p.default? key) =
        ((normal (.object ns)).member? key).or (p.default? key)) :
    Simulates p (normal (.object ms)) (normal (.object ns)) :=
  of_objects fun hmem _ ha => h hmem ▸ ha

end Objects

section Arrays

variable {before after : List Value}

theorem Fits.replace (h : p.Fits (.array (before ++ v :: after)))
    (hmembers : p.members (.array (before ++ v :: after)) =
      p.members (.array (before ++ w :: after))) :
    p.Fits (.array (before ++ w :: after)) := by
  have hlength : (before ++ w :: after).length = (before ++ v :: after).length := by simp
  cases p with
  | graph => exact h
  | _ =>
      simp only [Fits] at h ⊢
      rwa [hlength, ← hmembers]

theorem Simulates.replace
    (hmembers : p.members (.array (before ++ v :: after)) =
      p.members (.array (before ++ w :: after)))
    (hmem : (p.members (.array (before ++ v :: after)))[before.length]? = some (key, q))
    (hitem : ∀ {a : q.Carrier}, q.decode v = .ok a → q.decode w = .ok a) :
    Simulates p (.array (before ++ v :: after)) (.array (before ++ w :: after)) := by
  refine ⟨fun h => h.replace hmembers, fun {k q'} hmem' a ha => ?_⟩
  have hset : before ++ w :: after = (before ++ v :: after).set before.length w := by simp
  have hkeys : p.keys (.array (before ++ w :: after)) = p.keys (.array (before ++ v :: after)) :=
    congrArg (List.map Prod.fst) hmembers.symm
  simp only [value?, hkeys] at ha ⊢
  by_cases hindex : (p.keys (.array (before ++ v :: after))).idxOf k = before.length
  · have hmap : (p.keys (.array (before ++ v :: after)))[before.length]? = some key := by
      rw [keys, List.getElem?_map, hmem]
      rfl
    rw [← hindex, List.getElem?_idxOf (mem_keys hmem'), Option.some_inj] at hmap
    subst hmap
    obtain rfl := part_unique hmem' (List.mem_of_getElem? hmem)
    rw [hindex, List.getElem?_append_right (Nat.le_refl _), Nat.sub_self,
      List.getElem?_cons_zero, Option.some_or, yields_some] at ha ⊢
    exact hitem ha
  · rwa [hset, List.getElem?_set_ne (Ne.symm hindex)]

end Arrays

end Part

theorem decodeList_replace {α : Type} {item : Value → Except Misfit α} {before after : List Value}
    {v w : Value} (hitem : ∀ {a : α}, item v = .ok a → item w = .ok a) {as : List α}
    (h : decodeList item (.array (before ++ v :: after)) = .ok as) :
    decodeList item (.array (before ++ w :: after)) = .ok as := by
  simp only [decodeList, List.mapM_append, List.mapM_cons, bind_eq_ok_iff] at h ⊢
  obtain ⟨bs, hbefore, cs, ⟨a, ha, hafter⟩, has⟩ := h
  exact ⟨bs, hbefore, cs, ⟨a, hitem ha, hafter⟩, has⟩

end Blueprint.Snapshot
