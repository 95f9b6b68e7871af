import Mathlib.Data.List.Forall2

/-!
# Computations that may fail

A sequence of steps succeeds when each step does, and a list is worked through up to the first
failure.
-/

namespace Blueprint

universe u

variable {ε α β : Type u}

@[simp] theorem ok_bind (a : α) (f : α → Except ε β) : (Except.ok a >>= f) = f a := rfl

@[simp] theorem error_bind (e : ε) (f : α → Except ε β) :
    ((Except.error e : Except ε α) >>= f) = .error e := rfl

theorem bind_eq_ok_iff {x : Except ε α} {f : α → Except ε β} {b : β} :
    (x >>= f) = .ok b ↔ ∃ a, x = .ok a ∧ f a = .ok b := by
  cases x <;> simp

theorem mapError_eq_ok_iff {ε' : Type u} {x : Except ε α} {f : ε → ε'} {a : α} :
    x.mapError f = .ok a ↔ x = .ok a := by
  cases x <;> simp [Except.mapError]

theorem toOption_eq_some_iff {x : Except ε α} {a : α} : x.toOption = some a ↔ x = .ok a := by
  cases x <;> simp [Except.toOption]

theorem exists_eq_ok_of_isSome {x : Except ε α} (h : x.toOption.isSome = true) :
    ∃ a, x = .ok a := by
  obtain ⟨a, ha⟩ := Option.isSome_iff_exists.mp h
  exact ⟨a, toOption_eq_some_iff.mp ha⟩

theorem mapM_eq_ok_iff {f : α → Except ε β} {as : List α} {bs : List β} :
    as.mapM f = .ok bs ↔ List.Forall₂ (fun a b => f a = .ok b) as bs := by
  induction as generalizing bs with
  | nil => cases bs <;> simp [pure, Except.pure]
  | cons a as ih =>
      rw [List.mapM_cons, bind_eq_ok_iff, List.forall₂_cons_left_iff]
      constructor
      · rintro ⟨b, hb, h⟩
        obtain ⟨cs, hcs, h⟩ := bind_eq_ok_iff.mp h
        cases h
        exact ⟨b, cs, hb, ih.mp hcs, rfl⟩
      · rintro ⟨b, cs, hb, hcs, rfl⟩
        exact ⟨b, hb, bind_eq_ok_iff.mpr ⟨cs, ih.mpr hcs, rfl⟩⟩

theorem exists_source_of_mapM_eq_ok {f : α → Except ε β} {as : List α} {bs : List β}
    (h : as.mapM f = .ok bs) {b : β} (hb : b ∈ bs) : ∃ a ∈ as, f a = .ok b := by
  have h := mapM_eq_ok_iff.mp h
  induction h with
  | nil => cases hb
  | @cons a c as bs hac _ ih =>
      rcases List.mem_cons.mp hb with rfl | hb
      · exact ⟨a, by simp, hac⟩
      · obtain ⟨d, hd, hdb⟩ := ih (mapM_eq_ok_iff.mpr ‹_›) hb
        exact ⟨d, by simp [hd], hdb⟩

theorem exists_of_mapM_eq_ok {f : α → Except ε β} {as : List α} {bs : List β}
    (h : as.mapM f = .ok bs) {a : α} (ha : a ∈ as) : ∃ b, f a = .ok b := by
  have h := mapM_eq_ok_iff.mp h
  induction h with
  | nil => cases ha
  | @cons c b as bs hcb _ ih =>
      rcases List.mem_cons.mp ha with rfl | ha
      · exact ⟨b, hcb⟩
      · exact ih (mapM_eq_ok_iff.mpr ‹_›) ha

theorem mapM_cons_eq_error_iff {f : α → Except ε β} {a : α} {as : List α} {e : ε} :
    (a :: as).mapM f = .error e ↔
      f a = .error e ∨ (∃ b, f a = .ok b) ∧ as.mapM f = .error e := by
  rw [List.mapM_cons]
  cases f a with
  | error e' => simp
  | ok b => cases as.mapM f <;> simp [pure, Except.pure]

/-- A list that fails does so at its first element that does. -/
theorem mapM_eq_error_iff {f : α → Except ε β} {as : List α} {e : ε} : as.mapM f = .error e ↔
    ∃ before a after, as = before ++ a :: after ∧ (∀ b ∈ before, ∃ c, f b = .ok c) ∧
      f a = .error e := by
  induction as with
  | nil => simp [pure, Except.pure]
  | cons a as ih =>
      rw [mapM_cons_eq_error_iff, ih]
      constructor
      · rintro (ha | ⟨ha, before, c, after, rfl, hbefore, hc⟩)
        · exact ⟨[], a, as, rfl, by simp, ha⟩
        · exact ⟨a :: before, c, after, rfl, List.forall_mem_cons.mpr ⟨ha, hbefore⟩, hc⟩
      · rintro ⟨before, c, after, has, hbefore, hc⟩
        cases before with
        | nil =>
            obtain ⟨rfl, -⟩ := List.cons.inj has
            exact .inl hc
        | cons b before =>
            obtain ⟨rfl, rfl⟩ := List.cons.inj has
            obtain ⟨ha, hbefore⟩ := List.forall_mem_cons.mp hbefore
            exact .inr ⟨ha, before, c, after, rfl, hbefore, hc⟩

theorem exists_mem_of_mapM_eq_error {f : α → Except ε β} {as : List α} {e : ε}
    (h : as.mapM f = .error e) : ∃ a ∈ as, f a = .error e := by
  obtain ⟨before, a, after, rfl, -, ha⟩ := mapM_eq_error_iff.mp h
  exact ⟨a, by simp, ha⟩

end Blueprint
