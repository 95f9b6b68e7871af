import Mathlib.Data.List.Induction
import Mathlib.Data.List.Nodup

/-!
# Lists in the order of their keys

Projects, tables and objects are lists of values with keys that increase along the list. A value is
put at the place of its key, where it replaces the one that was there. Nothing changes under any
other key, and the keys still increase. Where keys are only distinct, a lookup does not depend on
the order of the list.
-/

namespace Blueprint.Keyed

variable {α β : Type} {key other : String} {a : α} {ps : List (String × α)}

/-- Puts a value at the place of its key. -/
def insert (key : String) (a : α) : List (String × α) → List (String × α)
  | [] => [(key, a)]
  | p :: rest =>
    if key < p.1 then (key, a) :: p :: rest
    else if key = p.1 then (key, a) :: rest
    else p :: insert key a rest

theorem compare_eq (key other : String) : compare key other =
    if key < other then .lt else if key = other then .eq else .gt := rfl

theorem find?_insert : (insert key a ps).find? (·.1 == other) =
    if key = other then some (key, a) else ps.find? (·.1 == other) := by
  induction ps with
  | nil => by_cases h : key = other <;> simp [insert, h]
  | cons p rest ih =>
      rw [insert]
      by_cases hother : key = other
      · rw [if_pos hother] at ih ⊢
        split_ifs with hlt heq
        · simp [hother]
        · simp [hother]
        · -- The head that is passed over has another key, so it is not found.
          have hhead : p.1 ≠ other := fun h => heq (hother.trans h.symm)
          simp [hhead, ih]
      · rw [if_neg hother] at ih ⊢
        split_ifs with hlt heq
        · simp [hother]
        · simp [hother, ← heq]
        · simp only [List.find?_cons, ih]

theorem eq_or_mem_of_mem_insert {p : String × α} (h : p ∈ insert key a ps) :
    p = (key, a) ∨ p ∈ ps := by
  induction ps with
  | nil => exact .inl (List.mem_singleton.mp h)
  | cons q rest ih =>
      rw [insert] at h
      split_ifs at h <;> grind

theorem map_insert (f : α → β) : (insert key a ps).map (Prod.map id f) =
    insert key (f a) (ps.map (Prod.map id f)) := by
  induction ps with
  | nil => rfl
  | cons p rest ih =>
      rw [insert, List.map_cons, insert, apply_ite (List.map _), apply_ite (List.map _),
        List.map_cons, List.map_cons, List.map_cons, List.map_cons, ih]
      rfl

/-! ### Order -/

/-- Keys increase along the list. -/
def Sorted (ps : List (String × α)) : Prop := ps.Pairwise fun p q => p.1 < q.1

theorem Sorted.insert (h : Sorted ps) (key : String) (a : α) : Sorted (insert key a ps) := by
  induction ps with
  | nil => exact List.pairwise_singleton _ _
  | cons p rest ih =>
      obtain ⟨hhead, hrest⟩ := List.pairwise_cons.mp h
      rw [Keyed.insert]
      split_ifs with hlt heq
      · refine List.pairwise_cons.mpr ⟨fun q hq => ?_, h⟩
        rcases List.mem_cons.mp hq with rfl | hq
        · exact hlt
        · exact String.lt_trans hlt (hhead q hq)
      · exact List.pairwise_cons.mpr ⟨heq ▸ hhead, hrest⟩
      · refine List.pairwise_cons.mpr ⟨fun q hq => ?_, ih hrest⟩
        rcases eq_or_mem_of_mem_insert hq with rfl | hq
        · exact String.not_le.mp fun hle => heq (String.le_antisymm hle (String.not_lt.mp hlt))
        · exact hhead q hq

theorem Sorted.nodup_keys (h : Sorted ps) : (ps.map Prod.fst).Nodup := by
  refine List.pairwise_map.mpr (h.imp fun {p q} hlt heq => ?_)
  rw [heq] at hlt
  exact String.lt_irrefl _ hlt

theorem insert_of_forall_lt (h : ∀ p ∈ ps, p.1 < key) : insert key a ps = ps ++ [(key, a)] := by
  induction ps with
  | nil => rfl
  | cons p rest ih =>
      rw [List.forall_mem_cons] at h
      have hlt : ¬ key < p.1 := String.lt_asymm h.1
      have hne : key ≠ p.1 := fun heq => String.lt_irrefl _ (heq ▸ h.1)
      rw [insert, if_neg hlt, if_neg hne, ih h.2, List.cons_append]

/-! ### Distinct keys -/

section Distinct

variable {κ : Type} [DecidableEq κ] {keyOf : α → κ} {as bs : List α}

theorem find?_eq_some_iff_of_nodup (h : (as.map keyOf).Nodup) {x : κ} {a : α} :
    as.find? (keyOf · == x) = some a ↔ a ∈ as ∧ keyOf a = x := by
  constructor
  · intro hfind
    exact ⟨List.mem_of_find?_eq_some hfind, by simpa using List.find?_some hfind⟩
  · rintro ⟨ha, rfl⟩
    obtain ⟨b, hfind⟩ : ∃ b, as.find? (keyOf · == keyOf a) = some b := by
      rw [← Option.isSome_iff_exists, List.find?_isSome]
      exact ⟨a, ha, by simp⟩
    have hkey : keyOf b = keyOf a := by simpa using List.find?_some hfind
    rw [hfind, List.inj_on_of_nodup_map h (List.mem_of_find?_eq_some hfind) ha hkey]

theorem find?_eq_of_perm (hperm : as.Perm bs) (h : (bs.map keyOf).Nodup) (x : κ) :
    as.find? (keyOf · == x) = bs.find? (keyOf · == x) := by
  refine Option.ext fun a => ?_
  have has : (as.map keyOf).Nodup := (hperm.map keyOf).nodup_iff.mpr h
  rw [find?_eq_some_iff_of_nodup has, find?_eq_some_iff_of_nodup h, hperm.mem_iff]

end Distinct

theorem Sorted.find?_value_eq_some_iff (h : Sorted ps) :
    (ps.find? (·.1 == key)).map (·.2) = some a ↔ (key, a) ∈ ps := by
  rw [Option.map_eq_some_iff]
  constructor
  · rintro ⟨p, hfind, rfl⟩
    obtain ⟨hmem, rfl⟩ := (find?_eq_some_iff_of_nodup h.nodup_keys).mp hfind
    exact hmem
  · intro hmem
    exact ⟨_, (find?_eq_some_iff_of_nodup h.nodup_keys).mpr ⟨hmem, rfl⟩, rfl⟩

/-- A list in the order of its keys is told by what is in it. -/
theorem Sorted.eq_of_mem_iff {qs : List (String × α)} (hps : Sorted ps) (hqs : Sorted qs)
    (h : ∀ p, p ∈ ps ↔ p ∈ qs) : ps = qs := by
  have hperm : ps.Perm qs :=
    (List.perm_ext_iff_of_nodup hps.nodup_keys.of_map hqs.nodup_keys.of_map).mpr h
  refine hperm.eq_of_pairwise (fun p q _ _ hpq hqp => ?_) hps hqs
  exact absurd hqp (String.lt_asymm hpq)

/-! ### First places -/

section FirstPlaces

variable {κ : Type} [DecidableEq κ]

theorem eraseDups_concat (ks : List κ) (k : κ) :
    (ks ++ [k]).eraseDups = if k ∈ ks then ks.eraseDups else ks.eraseDups ++ [k] := by
  rw [List.eraseDups_append]
  by_cases h : k ∈ ks
  · simp [List.removeAll, h]
  · simp [List.removeAll, h, List.eraseDups_cons]

/-- Without repetitions, keys stand in the order of their first places. -/
theorem pairwise_idxOf_eraseDups (ks : List κ) :
    ks.eraseDups.Pairwise fun a b => ks.idxOf a < ks.idxOf b := by
  induction ks using List.reverseRecOn with
  | nil => exact .nil
  | append_singleton ks k ih =>
      have hkept : ks.eraseDups.Pairwise fun a b => (ks ++ [k]).idxOf a < (ks ++ [k]).idxOf b := by
        refine ih.imp_of_mem fun {a b} ha hb hlt => ?_
        rwa [List.idxOf_append_of_mem (List.mem_eraseDups.mp ha),
          List.idxOf_append_of_mem (List.mem_eraseDups.mp hb)]
      rw [eraseDups_concat]
      split_ifs with hk
      · exact hkept
      · refine List.pairwise_append.mpr ⟨hkept, List.pairwise_singleton _ _, fun a ha b hb => ?_⟩
        have ha' : a ∈ ks := List.mem_eraseDups.mp ha
        rw [List.mem_singleton.mp hb, List.idxOf_append_of_mem ha', List.idxOf_append_of_notMem hk]
        exact Nat.lt_add_right _ (List.idxOf_lt_length_of_mem ha')

theorem nodup_eraseDups (ks : List κ) : ks.eraseDups.Nodup := by
  refine (pairwise_idxOf_eraseDups ks).imp fun {a b} hlt heq => ?_
  rw [heq] at hlt
  exact Nat.lt_irrefl _ hlt

end FirstPlaces

end Blueprint.Keyed
