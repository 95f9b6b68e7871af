import Blueprint.Diff.Script

/-!
# How far paths of edits come

A search keeps for each diagonal how far along the old side paths of so many edits come. Both
searches go by the same rounds, whatever they follow and whenever they stop. A place may lie outside
the two stretches, but then so does its neighbor, but for one line: `Reached` says so, and from it
which diagonals are entered inside.
-/

namespace Blueprint.Diff

/-! ### Diagonals -/

/-- Paths of `d` edits can end on diagonal `k`. -/
def Ends (d : Nat) (k : Int) : Prop := -(d : Int) ≤ k ∧ k ≤ d ∧ (k + d) % 2 = 0

theorem Ends.inside {d size : Nat} {k : Int} (h : Ends d k) (hd : d < size) :
    -(size : Int) ≤ k ∧ k ≤ size := by
  obtain ⟨hlow, hhigh, -⟩ := h
  omega

theorem mem_diagonals {d : Nat} {k : Int} : k ∈ diagonals d ↔ Ends d k := by
  rw [diagonals, List.mem_map]
  constructor
  · rintro ⟨i, hi, rfl⟩
    rw [List.mem_range] at hi
    exact ⟨by omega, by omega, by omega⟩
  · rintro ⟨hlow, hhigh, hparity⟩
    refine ⟨((d - k) / 2).toNat, List.mem_range.mpr (by omega), by omega⟩

theorem nodup_diagonals (d : Nat) : (diagonals d).Nodup := by
  rw [diagonals, List.nodup_iff_pairwise_ne, List.pairwise_map]
  refine (List.nodup_iff_pairwise_ne.mp List.nodup_range).imp ?_
  intro i j hij heq
  omega

namespace Frontier

/-- The frontier has room for all diagonals up to `size`. -/
def Holds (f : Frontier) (size : Nat) : Prop := f.offset = size ∧ f.reach.size = 2 * size + 1

variable {f : Frontier} {size : Nat}

theorem holds_start (size : Nat) : (start size).Holds size := ⟨rfl, Array.size_replicate⟩

theorem get_start (size : Nat) (k : Int) : (start size).get k = 0 := by
  rw [get, start, Array.getD_eq_getD_getElem?, Array.getElem?_replicate]
  split <;> rfl

theorem Holds.set (h : f.Holds size) (k : Int) (x : Nat) : (f.set k x).Holds size :=
  ⟨h.1, by rw [Frontier.set, Array.size_setIfInBounds, h.2]⟩

theorem Holds.get_set (h : f.Holds size) {k l : Int} (x : Nat) (hk : -size ≤ k ∧ k ≤ size)
    (hl : -size ≤ l ∧ l ≤ size) : (f.set k x).get l = if l = k then x else f.get l := by
  obtain ⟨hoffset, hsize⟩ := h
  have hinside : (l + f.offset).toNat < f.reach.size := by omega
  have hplace : (k + f.offset).toNat = (l + f.offset).toNat ↔ l = k := by omega
  simp only [get, Frontier.set, Array.getD_eq_getD_getElem?, Array.getElem?_setIfInBounds, hplace]
  by_cases hlk : l = k
  · rw [if_pos hlk, if_pos hlk, if_pos (hlk ▸ hinside), Option.getD_some]
  · rw [if_neg hlk, if_neg hlk]

/-! ### Entering a diagonal -/

variable {d : Nat} {k : Int}

theorem enter_cases (f : Frontier) (hk : Ends (d + 1) k) :
    (Ends d (k + 1) ∧ f.enter (d + 1 : Nat) k = f.get (k + 1)) ∨
      (Ends d (k - 1) ∧ f.enter (d + 1 : Nat) k = f.get (k - 1) + 1) := by
  obtain ⟨hlow, hhigh, hparity⟩ := hk
  rw [enter]
  split
  next hif =>
    have hne : k ≠ (d + 1 : Nat) := by
      simp at hif
      omega
    exact .inl ⟨⟨by omega, by omega, by omega⟩, rfl⟩
  next hif =>
    have hne : k ≠ -(d + 1 : Nat) := by
      simp at hif
      omega
    exact .inr ⟨⟨by omega, by omega, by omega⟩, rfl⟩

theorem get_above_le_enter (f : Frontier) (h : Ends d (k + 1)) :
    f.get (k + 1) ≤ f.enter (d + 1 : Nat) k := by
  obtain ⟨hlow, hhigh, -⟩ := h
  rw [enter]
  split
  next => exact Nat.le_refl _
  next hif =>
    simp at hif
    omega

theorem get_below_lt_enter (f : Frontier) (h : Ends d (k - 1)) :
    f.get (k - 1) < f.enter (d + 1 : Nat) k := by
  obtain ⟨hlow, hhigh, -⟩ := h
  rw [enter]
  split
  next hif =>
    simp at hif
    omega
  next => exact Nat.lt_succ_self _

/-- The diagonals that a round writes are not those it reads. -/
theorem Holds.enter_set (h : f.Holds size) (hd : d < size) {l : Int} (x : Nat) (hk : Ends d k)
    (hl : Ends d l) : (f.set k x).enter d l = f.enter d l := by
  obtain ⟨hklow, hkhigh, hkparity⟩ := hk
  obtain ⟨hllow, hlhigh, hlparity⟩ := hl
  have habove : (f.set k x).get (l + 1) = f.get (l + 1) := by
    rw [h.get_set x (by omega) (by omega), if_neg (by omega)]
  have hbelow : (f.set k x).get (l - 1) = f.get (l - 1) := by
    rw [h.get_set x (by omega) (by omega), if_neg (by omega)]
  rw [enter, enter, habove, hbelow]

end Frontier

/-! ### One round -/

/-- What both searches do: each diagonal is entered and followed, until the other search is met. -/
def sweep (follow : Int → Nat → Nat) (meet : Int → Nat → Nat → Option (Nat × Nat)) (d : Nat) :
    List Int → Frontier → Except (Nat × Nat) Frontier
  | [], f => .ok f
  | k :: ks, f =>
    let x := f.enter d k
    match meet k x (follow k x) with
    | some p => .error p
    | none => sweep follow meet d ks (f.set k (x + follow k x))

section Sweep

variable {follow : Int → Nat → Nat} {meet : Int → Nat → Nat → Option (Nat × Nat)} {d size : Nat}
  {ks : List Int} {f f' : Frontier} {p : Nat × Nat}

theorem sweep_eq_error (hf : f.Holds size) (hd : d < size) (hks : ∀ k ∈ ks, Ends d k)
    (h : sweep follow meet d ks f = .error p) :
    ∃ k ∈ ks, meet k (f.enter d k) (follow k (f.enter d k)) = some p := by
  induction ks generalizing f with
  | nil => nomatch h
  | cons k ks ih =>
      obtain ⟨hk, hks⟩ := List.forall_mem_cons.mp hks
      rw [sweep] at h
      split at h
      next q hmeet =>
        obtain rfl := Except.error.inj h
        exact ⟨k, List.mem_cons_self, hmeet⟩
      next =>
        obtain ⟨l, hl, hmeet⟩ := ih (hf.set k _) hks h
        rw [hf.enter_set hd _ hk (hks l hl)] at hmeet
        exact ⟨l, List.mem_cons_of_mem k hl, hmeet⟩

theorem sweep_eq_ok (hf : f.Holds size) (hd : d < size) (hks : ∀ k ∈ ks, Ends d k)
    (hnodup : ks.Nodup) (h : sweep follow meet d ks f = .ok f') :
    f'.Holds size ∧
      (∀ k ∈ ks, meet k (f.enter d k) (follow k (f.enter d k)) = none ∧
        f'.get k = f.enter d k + follow k (f.enter d k)) ∧
      ∀ l, Ends d l → l ∉ ks → f'.get l = f.get l := by
  induction ks generalizing f with
  | nil =>
      obtain rfl := Except.ok.inj h
      exact ⟨hf, List.forall_mem_nil _, fun _ _ _ => rfl⟩
  | cons k ks ih =>
      obtain ⟨hk, hks⟩ := List.forall_mem_cons.mp hks
      obtain ⟨hnotMem, hnodup⟩ := List.nodup_cons.mp hnodup
      rw [sweep] at h
      split at h
      next => nomatch h
      next hmeet =>
        obtain ⟨hholds, hround, hrest⟩ := ih (hf.set k _) hks hnodup h
        have hset {l : Int} (hl : Ends d l) :=
          hf.get_set (f.enter d k + follow k (f.enter d k)) (hk.inside hd) (hl.inside hd)
        refine ⟨hholds, List.forall_mem_cons.mpr ⟨⟨hmeet, ?_⟩, ?_⟩, ?_⟩
        · rw [hrest k hk hnotMem, hset hk, if_pos rfl]
        · intro l hl
          have hl' := hround l hl
          rwa [hf.enter_set hd _ hk (hks l hl)] at hl'
        · intro l hl hmem
          rw [List.mem_cons, not_or] at hmem
          rw [hrest l hl hmem.2, hset hl, if_neg hmem.1]

end Sweep

/-! ### How far paths come -/

/-- Diagonals are not followed out of the two stretches. -/
def Stays (n m : Nat) (follow : Int → Nat → Nat) : Prop :=
  ∀ k x, follow k x = 0 ∨ x + follow k x ≤ n ∧ (x + follow k x : Int) ≤ m + k

/-- One frontier is the other one after a round. -/
def Round (d : Nat) (follow : Int → Nat → Nat) (f f' : Frontier) : Prop :=
  ∀ k, Ends d k → f'.get k = f.enter d k + follow k (f.enter d k)

/-- What is known of the places that paths of `d` edits come to: how many lines of the two sides
they have passed, and that a place outside the stretches has a neighbor that is no more than one
line further inside. -/
structure Reached (n m d : Nat) (f : Frontier) : Prop where
  along : ∀ {k}, Ends d k → k ≤ f.get k
  far : ∀ {k}, Ends d k → d + k ≤ 2 * (f.get k : Int)
  old : ∀ {k}, Ends d k → n < f.get k → Ends d (k - 2) ∧ f.get k ≤ f.get (k - 2) + 1
  new : ∀ {k}, Ends d k → m + k < f.get k → Ends d (k + 2) ∧ f.get k + 1 ≤ f.get (k + 2)

namespace Reached

variable {n m d : Nat} {f f' : Frontier} {k : Int} {follow : Int → Nat → Nat}

theorem start (h : f.get 0 = 0) : Reached n m 0 f := by
  have hzero {k : Int} (hk : Ends 0 k) : k = 0 := by
    obtain ⟨hlow, hhigh, -⟩ := hk
    omega
  constructor
  all_goals
    intro k hk
    obtain rfl := hzero hk
    rw [h]
    omega

theorem above (hround : Round (d + 1) follow f f') (h : Ends d (k - 1)) :
    Ends (d + 1) (k - 2) ∧ f.get (k - 1) ≤ f'.get (k - 2) := by
  have hplace : k - 2 + 1 = k - 1 := by omega
  have henter := Frontier.get_above_le_enter f (hplace ▸ h)
  obtain ⟨hlow, hhigh, hparity⟩ := h
  have hends : Ends (d + 1) (k - 2) := ⟨by omega, by omega, by omega⟩
  rw [hplace] at henter
  rw [hround _ hends]
  exact ⟨hends, by omega⟩

theorem below (hround : Round (d + 1) follow f f') (h : Ends d (k + 1)) :
    Ends (d + 1) (k + 2) ∧ f.get (k + 1) + 1 ≤ f'.get (k + 2) := by
  have hplace : k + 2 - 1 = k + 1 := by omega
  have henter := Frontier.get_below_lt_enter f (hplace ▸ h)
  obtain ⟨hlow, hhigh, hparity⟩ := h
  have hends : Ends (d + 1) (k + 2) := ⟨by omega, by omega, by omega⟩
  rw [hplace] at henter
  rw [hround _ hends]
  exact ⟨hends, by omega⟩

theorem step (h : Reached n m d f) (hstays : Stays n m follow)
    (hround : Round (d + 1) follow f f') : Reached n m (d + 1) f' where
  along hk := by
    rw [hround _ hk]
    rcases f.enter_cases hk with ⟨hends, heq⟩ | ⟨hends, heq⟩
    · have := h.along hends
      omega
    · have := h.along hends
      omega
  far hk := by
    rw [hround _ hk]
    rcases f.enter_cases hk with ⟨hends, heq⟩ | ⟨hends, heq⟩
    · have := h.far hends
      omega
    · have := h.far hends
      omega
  old {k} hk hout := by
    rw [hround _ hk] at hout ⊢
    have hstay := hstays k (f.enter (d + 1 : Nat) k)
    rcases f.enter_cases hk with ⟨hends, heq⟩ | ⟨hends, heq⟩
    · have hplace : k + 1 - 2 = k - 1 := by omega
      obtain ⟨hends', hle⟩ := h.old hends (by omega)
      rw [hplace] at hends' hle
      obtain ⟨hends'', hle'⟩ := above hround hends'
      exact ⟨hends'', by omega⟩
    · obtain ⟨hends', hle⟩ := above hround hends
      exact ⟨hends', by omega⟩
  new {k} hk hout := by
    rw [hround _ hk] at hout ⊢
    have hstay := hstays k (f.enter (d + 1 : Nat) k)
    rcases f.enter_cases hk with ⟨hends, heq⟩ | ⟨hends, heq⟩
    · obtain ⟨hends', hle⟩ := below hround hends
      exact ⟨hends', by omega⟩
    · have hplace : k - 1 + 2 = k + 1 := by omega
      obtain ⟨hends', hle⟩ := h.new hends (by omega)
      rw [hplace] at hends' hle
      obtain ⟨hends'', hle'⟩ := below hround hends'
      exact ⟨hends'', by omega⟩

/-- A diagonal is entered inside the stretches if the neighbors that lie between it and the
diagonal of the far corner are inside. -/
theorem enter_inside (h : Reached n m d f) (hk : Ends (d + 1) k)
    (hbelow : (n : Int) - m ≤ k → Ends d (k - 1) →
      f.get (k - 1) < n ∧ f.get (k - 1) < m + (k - 1))
    (habove : k ≤ (n : Int) - m → Ends d (k + 1) →
      f.get (k + 1) < n ∧ f.get (k + 1) < m + (k + 1)) :
    k ≤ f.enter (d + 1 : Nat) k ∧ f.enter (d + 1 : Nat) k ≤ n ∧
      f.enter (d + 1 : Nat) k ≤ m + k ∧ d + 1 + k ≤ 2 * (f.enter (d + 1 : Nat) k : Int) ∧
      (f.enter (d + 1 : Nat) k < n ∨ f.enter (d + 1 : Nat) k < m + k) := by
  rcases f.enter_cases hk with ⟨hends, heq⟩ | ⟨hends, heq⟩
  · have halong := h.along hends
    have hfar := h.far hends
    have hold := h.old hends
    have hplace : k + 1 - 2 = k - 1 := by omega
    rw [hplace] at hold
    have hle := @Frontier.get_below_lt_enter d k f
    by_cases hdiagonal : k ≤ (n : Int) - m
    · have := habove hdiagonal hends
      omega
    · have hin : f.get (k + 1) ≤ n := by
        apply Nat.le_of_not_lt
        intro hout
        obtain ⟨hends', hle'⟩ := hold hout
        have := hbelow (by omega) hends'
        have := hle hends'
        omega
      omega
  · have halong := h.along hends
    have hfar := h.far hends
    have hnew := h.new hends
    have hplace : k - 1 + 2 = k + 1 := by omega
    rw [hplace] at hnew
    have hle := @Frontier.get_above_le_enter d k f
    by_cases hdiagonal : (n : Int) - m ≤ k
    · have := hbelow hdiagonal hends
      omega
    · have hin : f.get (k - 1) ≤ m + (k - 1) := by
        apply Int.not_lt.mp
        intro hout
        obtain ⟨hends', hle'⟩ := hnew hout
        have := habove (by omega) hends'
        have := hle hends'
        omega
      omega

end Reached

end Blueprint.Diff
