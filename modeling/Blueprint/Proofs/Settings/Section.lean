import Blueprint.Proofs.Except
import Blueprint.Proofs.Toml.Overlay
import Blueprint.Settings.Load

/-!
# What a section reads

Every setting is read at one key of its section and is left alone by all others. So what a section
decodes to can be told setting by setting: each is what stands at its key, or as it was when
nothing stands there.
-/

namespace Blueprint.Settings

open Toml

section Members

variable {α β : Type} {s : Section α} {key : Key} {item : Item} {ms : Members} {a : α}
  {d : α × List Key}

theorem takeMembers_cons_of_mem (h : key.name ∈ s.keys) :
    takeMembers s ((key, item) :: ms) a = .ok d ↔ ∃ here rest,
      s.take key.name item a = .ok here ∧ takeMembers s ms here.1 = .ok rest ∧
        d = (rest.1, here.2 ++ rest.2) := by
  have hcontains : s.keys.contains key.name = true := List.contains_iff_mem.mpr h
  rw [takeMembers, if_pos hcontains]
  constructor
  · intro hok
    obtain ⟨here, hhere, hok⟩ := bind_eq_ok_iff.mp hok
    obtain ⟨rest, hrest, hok⟩ := bind_eq_ok_iff.mp hok
    exact ⟨here, rest, mapError_eq_ok_iff.mp hhere, hrest, (Except.ok.inj hok).symm⟩
  · rintro ⟨⟨b, here⟩, ⟨c, after⟩, hhere, hrest, rfl⟩
    rw [mapError_eq_ok_iff.mpr hhere, ok_bind]
    dsimp only at hrest ⊢
    rw [hrest]
    rfl

theorem takeMembers_cons_of_notMem (h : key.name ∉ s.keys) :
    takeMembers s ((key, item) :: ms) a = .ok d ↔ ∃ rest,
      takeMembers s ms a = .ok rest ∧ d = (rest.1, key :: rest.2) := by
  have hcontains : ¬ s.keys.contains key.name = true := by rwa [List.contains_iff_mem]
  rw [takeMembers, if_neg hcontains]
  constructor
  · intro hok
    obtain ⟨rest, hrest, hok⟩ := bind_eq_ok_iff.mp hok
    exact ⟨rest, hrest, (Except.ok.inj hok).symm⟩
  · rintro ⟨rest, hrest, rfl⟩
    rw [hrest]
    rfl

theorem exists_takeMembers
    (h : ∀ m ∈ ms, m.1.name ∈ s.keys → ∀ a, ∃ d, s.take m.1.name m.2 a = .ok d) (a : α) :
    ∃ d, takeMembers s ms a = .ok d := by
  induction ms generalizing a with
  | nil => exact ⟨_, rfl⟩
  | cons m ms ih =>
      obtain ⟨key, item⟩ := m
      rw [List.forall_mem_cons] at h
      by_cases hkey : key.name ∈ s.keys
      · obtain ⟨here, hhere⟩ := h.1 hkey a
        obtain ⟨rest, hrest⟩ := ih h.2 here.1
        exact ⟨_, (takeMembers_cons_of_mem hkey).mpr ⟨here, rest, hhere, hrest, rfl⟩⟩
      · obtain ⟨rest, hrest⟩ := ih h.2 a
        exact ⟨_, (takeMembers_cons_of_notMem hkey).mpr ⟨rest, hrest, rfl⟩⟩

theorem exists_take_of_takeMembers (hok : takeMembers s ms a = .ok d) {k : String} (hk : k ∈ s.keys)
    (hitem : findMember k ms = some item) : ∃ a d, s.take k item a = .ok d := by
  induction ms generalizing a d with
  | nil => cases hitem
  | cons m ms ih =>
      obtain ⟨key, other⟩ := m
      rw [Item.findMember_cons] at hitem
      split_ifs at hitem with hkey
      · obtain rfl := Option.some.inj hitem
        obtain ⟨here, rest, hhere, -, -⟩ := (takeMembers_cons_of_mem (hkey ▸ hk)).mp hok
        exact ⟨a, here, hkey ▸ hhere⟩
      · by_cases hmem : key.name ∈ s.keys
        · obtain ⟨here, rest, -, hrest, -⟩ := (takeMembers_cons_of_mem hmem).mp hok
          exact ih hrest hitem
        · obtain ⟨rest, hrest, -⟩ := (takeMembers_cons_of_notMem hmem).mp hok
          exact ih hrest hitem

/-- A setting of a section: its key sets it to what is read there, and no other key changes it. -/
structure Section.Reads (s : Section α) (k : String) (get : α → β) (read : Item → Option β) :
    Prop where
  mem_keys : k ∈ s.keys
  take_self : ∀ item a, (s.take k item a).toOption.map (fun d => get d.1) = read item
  take_other : ∀ {other item a d}, other ∈ s.keys → other ≠ k → s.take other item a = .ok d →
    get d.1 = get a

namespace Section.Reads

variable {k : String} {get : α → β} {read : Item → Option β} (h : s.Reads k get read)
include h

theorem read_eq_some (hok : s.take k item a = .ok d) : read item = some (get d.1) := by
  rw [← h.take_self item a, hok]
  rfl

theorem exists_take (hread : (read item).isSome) (a : α) : ∃ d, s.take k item a = .ok d := by
  rw [← h.take_self item a] at hread
  cases htake : s.take k item a with
  | error c => simp [htake, Except.toOption] at hread
  | ok d => exact ⟨d, rfl⟩

theorem get_takeMembers_of_none (hok : takeMembers s ms a = .ok d)
    (hnone : findMember k ms = none) : get d.1 = get a := by
  induction ms generalizing a d with
  | nil =>
      cases hok
      rfl
  | cons m ms ih =>
      obtain ⟨key, item⟩ := m
      rw [Item.findMember_cons] at hnone
      split_ifs at hnone with hkey
      by_cases hmem : key.name ∈ s.keys
      · obtain ⟨here, rest, hhere, hrest, rfl⟩ := (takeMembers_cons_of_mem hmem).mp hok
        exact (ih hrest hnone).trans (h.take_other hmem hkey hhere)
      · obtain ⟨rest, hrest, rfl⟩ := (takeMembers_cons_of_notMem hmem).mp hok
        exact ih (d := rest) hrest hnone

/-- A setting ends up as what is read at its key, or stays as it was. -/
theorem get_takeMembers (hnodup : (ms.map (·.1.name)).Nodup) (hok : takeMembers s ms a = .ok d) :
    get d.1 = ((findMember k ms).bind read).getD (get a) := by
  induction ms generalizing a d with
  | nil =>
      cases hok
      rfl
  | cons m ms ih =>
      obtain ⟨key, item⟩ := m
      rw [List.map_cons, List.nodup_cons] at hnodup
      rw [Item.findMember_cons]
      by_cases hmem : key.name ∈ s.keys
      · obtain ⟨here, rest, hhere, hrest, rfl⟩ := (takeMembers_cons_of_mem hmem).mp hok
        split_ifs with hkey
        · have hnone : findMember k ms = none := by
            refine Option.map_eq_none_iff.mpr (List.find?_eq_none.mpr fun m hm hname => ?_)
            exact hnodup.1 (hkey ▸ eq_of_beq hname ▸ List.mem_map_of_mem (f := (·.1.name)) hm)
          rw [h.get_takeMembers_of_none hrest hnone, Option.bind_some,
            h.read_eq_some (hkey ▸ hhere), Option.getD_some]
        · rw [ih hnodup.2 hrest, h.take_other hmem hkey hhere]
      · obtain ⟨rest, hrest, rfl⟩ := (takeMembers_cons_of_notMem hmem).mp hok
        have hkey : key.name ≠ k := fun hkey => hmem (hkey ▸ h.mem_keys)
        rw [if_neg hkey]
        exact ih (d := rest) hnodup.2 hrest

end Section.Reads

/-- A setting of a section that is read off the scalar at its key, wherever that stands. -/
def Section.Chooses (s : Section α) (k : String) (get : α → β) (choose : Scalar → Option β) :
    Prop :=
  ∃ read, s.Reads k get read ∧ ∀ x span, read (.scalar x span) = choose x

/-- What one section takes at a key, another one with the same setting takes as well. -/
theorem Section.Chooses.take {s' : Section α} {k : String} {get : α → β}
    {choose : Scalar → Option β} {x : Scalar} {span span' : Option Span}
    (h : s.Chooses k get choose) (h' : s'.Chooses k get choose)
    (hok : s.take k (.scalar x span) a = .ok d) (a' : α) :
    ∃ d', s'.take k (.scalar x span') a' = .ok d' := by
  obtain ⟨read, hreads, hread⟩ := h
  obtain ⟨read', hreads', hread'⟩ := h'
  refine hreads'.exists_take ?_ a'
  rw [hread', ← hread x span, hreads.read_eq_some hok]
  rfl

end Members

/-! ### Files -/

theorem readText_eq_ok {file : Path} {content : String} {l : Layer}
    (h : readText file content = .ok l) :
    ∃ root e, parse? content = some root ∧ decode .file root = .ok e ∧
      l.members = root.valueMembers ∧ l.unknown = e.2.map (UnknownKey.ofKey file content) := by
  rw [readText] at h
  cases hparse : parse? content with
  | none => simp [hparse] at h
  | some root =>
      cases hdecode : decode .file root with
      | error c => simp [hparse, hdecode] at h
      | ok e =>
          simp only [hparse, hdecode, Except.ok.injEq] at h
          refine ⟨root, e, rfl, hdecode, ?_, by rw [← h]⟩
          rw [← h]
          cases root <;> rw [Item.value] <;> rfl

end Blueprint.Settings
