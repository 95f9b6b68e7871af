import Blueprint.Proofs.Json.Inversion
import Blueprint.Proofs.Snapshot.Simulation
import Mathlib.Logic.Relation

/-!
# Respelled snapshots

A snapshot may be written with keys that its records do not declare, with the members of a record
in another order, and without members that hold their defaults. Each such change, wherever it is
made, leaves every part of the snapshot decoded as before, and so does any number of them.
-/

namespace Blueprint.Snapshot

open Json Snapshot.Part

/-- One change to the text of a part, at its head or inside one of its members. Any other member
is brought to the head of its object by a change of order. -/
inductive Respelling : Part → Value → Value → Prop where
  /-- A key is added that the record does not declare. -/
  | extra {p : Part} {ms : List Member} {key : String} (v : Value) (hp : p.IsRecord)
      (hkey : key ∉ p.keys (normal (.object ms))) :
      Respelling p (.object ms) (.object ((key, v) :: ms))
  /-- The value under such a key is changed. -/
  | other {p : Part} {ms : List Member} {key : String} {v : Value} (w : Value) (hp : p.IsRecord)
      (hkey : key ∉ p.keys (normal (.object ((key, v) :: ms)))) :
      Respelling p (.object ((key, v) :: ms)) (.object ((key, w) :: ms))
  /-- The members of an object come in another order. -/
  | order {p : Part} {ms ns : List Member} (hp : p.IsRecord) (hperm : ms.Perm ns)
      (hnodup : (ms.map Prod.fst).Nodup) : Respelling p (.object ms) (.object ns)
  /-- A member that holds its default is left out. -/
  | dropped {p : Part} {ms : List Member} {key : String} {v : Value}
      (hdefault : (key, v) ∈ p.defaults) : Respelling p (.object ((key, v) :: ms)) (.object ms)
  /-- A declared member is changed. -/
  | member {p q : Part} {ms : List Member} {key : String} {v w : Value}
      (hmem : (key, q) ∈ p.members (normal (.object ((key, v) :: ms))))
      (h : Respelling q v w) : Respelling p (.object ((key, v) :: ms)) (.object ((key, w) :: ms))
  /-- An item of a list is changed. -/
  | item {p : Part} (before after : List Value) {v w : Value} (h : Respelling p v w) :
      Respelling (.list p) (.array (before ++ v :: after)) (.array (before ++ w :: after))
  /-- A member of a record that is written as an array is changed. -/
  | position {p q : Part} (before after : List Value) {key : String} {v w : Value}
      (hmem : (p.members (normal (.array (before ++ v :: after))))[before.length]? = some (key, q))
      (h : Respelling q v w) :
      Respelling p (.array (before ++ v :: after)) (.array (before ++ w :: after))

namespace Respelling

variable {p : Part} {v w : Value}

theorem not_leaf {α : Type} {decode : Value → Except Misfit α} :
    ¬ Respelling (leaf decode) v w := by
  intro h
  cases h with
  | extra _ hp | other _ hp | order hp => exact hp
  | dropped h => cases h
  | member h => cases h
  | position _ _ h => cases h

/-- No change is seen in what a part is decoded into. -/
theorem decode (h : Respelling p v w) {a : p.Carrier} (ha : p.decode (normal v) = .ok a) :
    p.decode (normal w) = .ok a := by
  induction h with
  | extra v hp hkey =>
      refine Simulates.decode hp (.of_member?_eq fun hmem => ?_) ha
      rw [member?_normal_cons, if_neg (ne_of_mem_members hkey hmem), Option.or_none]
  | other w hp hkey =>
      refine Simulates.decode hp (.of_member?_eq fun hmem => ?_) ha
      have hne := ne_of_mem_members hkey hmem
      rw [member?_normal_cons, member?_normal_cons, if_neg hne, if_neg hne]
  | order hp hperm hnodup =>
      refine Simulates.decode hp (.of_member?_eq fun hmem => ?_) ha
      rw [member?_normal_perm hperm hnodup]
  | @dropped p ms k v hdefault =>
      refine Simulates.decode (isRecord_of_mem_defaults hdefault)
        (.of_member?_eq fun {key} _ _ => ?_) ha
      rw [member?_normal_cons, Option.or_assoc, normal_of_mem_defaults hdefault]
      congr 1
      split_ifs with hkey
      · subst hkey
        simp [default?_of_mem hdefault]
      · rfl
  | @member p q ms k v w hmem h ih =>
      refine Simulates.decode (isRecord_of_mem_members hmem)
        (.of_objects fun {key q'} hmem' a' hyields => ?_) ha
      rw [member?_normal_cons] at hyields ⊢
      by_cases hkey : k = key
      · subst hkey
        obtain rfl := part_unique hmem hmem'
        rw [if_pos rfl] at hyields ⊢
        cases hlater : (normal (.object ms)).member? k with
        | none =>
            rw [hlater, Option.none_or, Option.some_or, yields_some] at hyields
            rw [Option.none_or, Option.some_or, yields_some]
            exact ih hyields
        | some u => rwa [hlater] at hyields
      · rwa [if_neg hkey] at hyields ⊢
  | item _ _ h ih =>
      simp only [normal, normalItems_eq_map, List.map_append, List.map_cons] at ha ⊢
      exact decodeList_replace ih ha
  | @position p q before after k v w hmem h ih =>
      have hrecord := isRecord_of_mem_members (List.mem_of_getElem? hmem)
      simp only [normal, normalItems_eq_map, List.map_append, List.map_cons] at hmem ha ⊢
      rw [← List.length_map (f := normal)] at hmem
      refine Simulates.decode hrecord (.replace (members_congr fun hp => ?_) hmem ih) ha
      subst hp
      obtain ⟨_, _, rfl⟩ := exists_leaf_of_mem (List.mem_of_getElem? hmem)
      exact (not_leaf h).elim

theorem object (h : Respelling p v w) {ms : List Member} (hv : normal v = .object ms) :
    ∃ ns, normal w = .object ns := by
  cases h with
  | item | position => cases hv
  | _ => exact ⟨_, rfl⟩

/-- The heading of a graph stays an object. -/
theorem heading_object (h : Respelling .graph v w) {ms : List Member}
    (hms : (normal v).member? "meta" = some (.object ms)) :
    ∃ ns, (normal w).member? "meta" = some (.object ns) := by
  have hmeta (u : Value) : ("meta", heading) ∈ graph.members u := by simp [members]
  cases h with
  | extra _ _ hkey =>
      have hne := ne_of_mem_members hkey (hmeta _)
      exact ⟨ms, by rw [member?_normal_cons, if_neg hne, Option.or_none, hms]⟩
  | other _ _ hkey =>
      have hne := ne_of_mem_members hkey (hmeta _)
      rw [member?_normal_cons, if_neg hne] at hms
      exact ⟨ms, by rw [member?_normal_cons, if_neg hne, hms]⟩
  | order _ hperm hnodup => exact ⟨ms, by rw [← member?_normal_perm hperm hnodup, hms]⟩
  | @dropped _ _ key _ hdefault =>
      have hne : key ≠ "meta" := by
        rintro rfl
        simp [defaults] at hdefault
      rw [member?_normal_cons, if_neg hne, Option.or_none] at hms
      exact ⟨ms, hms⟩
  | @member _ _ others key _ _ _ h =>
      rw [member?_normal_cons] at hms ⊢
      cases hlater : (normal (.object others)).member? "meta" with
      | some u => exact ⟨ms, by rw [hlater] at hms; exact hms⟩
      | none =>
          rw [hlater, Option.none_or] at hms
          rw [Option.none_or]
          split_ifs at hms ⊢ with hkey
          obtain ⟨ns, hns⟩ := h.object (Option.some_inj.mp hms)
          exact ⟨ns, congrArg some hns⟩
  | position => cases hms

end Respelling

theorem ofValue_of_respelling {v w : Value} {g : Graph} (h : Respelling .graph v w)
    (hv : ofValue (normal v) = .ok g) : ofValue (normal w) = .ok g := by
  obtain ⟨hnamed, hdecode⟩ := ofValue_eq_ok_iff.mp hv
  obtain ⟨⟨ms, hms⟩, hname⟩ := (isNamed_iff_of_decode hdecode).mp hnamed
  have hdecode' : Graph.decode (normal w) = .ok g := h.decode hdecode
  have hnamed' := (isNamed_iff_of_decode hdecode').mpr ⟨h.heading_object hms, hname⟩
  exact ofValue_eq_ok_iff.mpr ⟨hnamed', hdecode'⟩

/-- A snapshot is the same graph after any number of changes to its text that add keys nobody
declares, reorder members or leave out defaults. -/
theorem load_respelled {text text' : String} {v w : Value} {g : Graph}
    (hread : Value.parse text = .ok v) (hchanges : Relation.ReflTransGen (Respelling .graph) v w)
    (hread' : Value.parse text' = .ok (normal w)) (hload : load text = .ok g) :
    load text' = .ok g := by
  obtain ⟨u, hu, hg⟩ := load_eq_ok_iff.mp hload
  obtain rfl : v = u := Except.ok.inj (hread.symm.trans hu)
  refine load_eq_ok_iff.mpr ⟨normal w, hread', ?_⟩
  rw [← normal_of_parse hread] at hg
  -- The induction is on the changes, the last of them first.
  clear hread'
  induction hchanges with
  | refl => exact hg
  | tail _ hlast ih => exact ofValue_of_respelling hlast ih

def price : List Member :=
  [("kind", .string "vo"), ("name", .string "price"), ("voId", .string "id-1")]

def rides (price : List Member) : Value := .array [.object [("fields", .array [.object price]),
  ("id", .string "id-2"), ("idType", .string "Guid"), ("name", .string "Ride")]]

def spelledOut : Value := .object [("entities", rides price),
  ("meta", .object [("name", .string "Fares"), ("version", .nat 1)]), ("repositories", .array [])]

/-- The same graph without its defaults, and with a key of the other variant in a field. -/
def sparse : Value := .object [("meta", .object [("name", .string "Fares")]),
  ("entities", rides (("type", .nat 7) :: price))]

theorem respelling_rides :
    Respelling (.list .entity) (rides price) (rides (("type", .nat 7) :: price)) := by
  have hfield : Respelling .entityField (.object price) (.object (("type", .nat 7) :: price)) :=
    .extra _ trivial (by decide)
  have hmem : ("fields", Part.list .entityField) ∈ Part.entity.members .null := by
    simp [Part.members]
  exact .item (p := .entity) [] [] (.member hmem (.item [] [] hfield))

theorem respellings_spelledOut : Relation.ReflTransGen (Respelling .graph) spelledOut sparse := by
  have hentities : ("entities", Part.list .entity) ∈ graph.members .null := by simp [Part.members]
  have hmeta : ("meta", heading) ∈ graph.members .null := by simp [Part.members]
  have hrepositories : ("repositories", .array []) ∈ graph.defaults := by simp [Part.defaults]
  have hversion : ("version", .nat 1) ∈ heading.defaults := by simp [Part.defaults]
  refine .head (.member hentities respelling_rides) ?_
  refine .head (.order trivial (List.reverse_perm _).symm (by decide)) ?_
  refine .head (.dropped hrepositories) ?_
  refine .head (.member hmeta (.order trivial (List.Perm.swap _ _ _) (by decide))) ?_
  exact .single (.member hmeta (.dropped hversion))

theorem plain_rides {price : List Member} (h : ∀ m ∈ price, Plain 122 m.2) :
    Plain 126 (rides price) := by
  have hfields : Plain 124 (.array [.object price]) := .array (by simpa using Plain.object h)
  exact .array (by simpa using Plain.object (by simp [hfields, Plain.string]))

theorem plain_spelledOut : Plain depthLimit spelledOut := by
  have hrides : Plain 126 (rides price) := plain_rides (by simp [price, Plain.string])
  have hheading : Plain 126 (.object [("name", .string "Fares"), ("version", .nat 1)]) :=
    .object (by simp [Plain.string, plain_nat])
  have hempty : Plain 126 (.array []) := .array (by simp)
  exact .object (by simp [hrides, hheading, hempty])

theorem plain_sparse : Plain depthLimit sparse := by
  have hrides : Plain 126 (rides (("type", .nat 7) :: price)) :=
    plain_rides (by simp [price, Plain.string, plain_nat])
  have hheading : Plain 126 (.object [("name", .string "Fares")]) :=
    .object (by simp [Plain.string])
  exact .object (by simp [hrides, hheading])

theorem load_respelled_of_fares :
    Value.parse spelledOut.compact = .ok spelledOut ∧
      Relation.ReflTransGen (Respelling .graph) spelledOut sparse ∧
      Value.parse sparse.compact = .ok (normal sparse) ∧
      ∃ g, load spelledOut.compact = .ok g ∧ load sparse.compact = .ok g := by
  have hread : Value.parse spelledOut.compact = .ok spelledOut :=
    Value.parse_compact plain_spelledOut
  have hread' := Value.parse_compact plain_sparse
  have hload : load spelledOut.compact = .ok ⟨[], [⟨⟨"id-2"⟩, "Ride", .guid,
      [.valueObject "price" ⟨"id-1"⟩]⟩], [], [], [], ⟨"Fares", 1⟩⟩ :=
    load_eq_ok_iff.mpr ⟨_, hread, rfl⟩
  exact ⟨hread, respellings_spelledOut, hread', _, hload,
    load_respelled hread respellings_spelledOut hread' hload⟩

end Blueprint.Snapshot
