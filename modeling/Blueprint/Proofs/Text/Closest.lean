import Blueprint.Proofs.Text.EditDistance

/-!
# Closest candidates

The closest candidate for a text is the first of those that are nearest to it by the least number of
edits between their bytes, unless that is more than two edits away. The best candidate so far is
followed along the list: one more candidate takes its place exactly when it is nearer.
-/

namespace Blueprint.Text

/-- The least number of edits between the bytes of two texts. -/
def byteDistance (a b : String) : Nat := distance a.toUTF8.toList b.toUTF8.toList

/-- The first of the candidates that are nearest to a text. -/
def FirstNearest (input : String) (candidates : List String) (c : String) : Prop :=
  ∃ before after, candidates = before ++ c :: after ∧
    (∀ d ∈ before, byteDistance input c < byteDistance input d) ∧
    ∀ d ∈ after, byteDistance input c ≤ byteDistance input d

variable {input c d : String} {candidates : List String}

theorem byteDistance_eq_zero_iff : byteDistance input c = 0 ↔ input = c := by
  rw [byteDistance, distance_eq_zero_iff, toUTF8_toList_inj]

namespace FirstNearest

theorem mem (h : FirstNearest input candidates c) : c ∈ candidates := by
  obtain ⟨before, after, rfl, -, -⟩ := h
  exact List.mem_append_right _ List.mem_cons_self

theorem le (h : FirstNearest input candidates c) (hd : d ∈ candidates) :
    byteDistance input c ≤ byteDistance input d := by
  obtain ⟨before, after, rfl, hbefore, hafter⟩ := h
  rcases List.mem_append.mp hd with hd | hd
  · exact (hbefore d hd).le
  rcases List.mem_cons.mp hd with rfl | hd
  · exact le_rfl
  · exact hafter d hd

theorem find?_eq (h : FirstNearest input candidates c) :
    candidates.find? (fun c => candidates.all (byteDistance input c ≤ byteDistance input ·)) =
      some c := by
  have hle : ∀ d ∈ candidates, byteDistance input c ≤ byteDistance input d := fun d => h.le
  obtain ⟨before, after, hcandidates, hbefore, -⟩ := h
  refine List.find?_eq_some_iff_append.mpr ⟨by simpa using hle, before, after, hcandidates, ?_⟩
  intro d hd
  have hc : c ∈ candidates := by simp [hcandidates]
  simpa using ⟨c, hc, hbefore d hd⟩

theorem unique (h : FirstNearest input candidates c) (h' : FirstNearest input candidates d) :
    c = d :=
  Option.some.inj (h.find?_eq.symm.trans h'.find?_eq)

theorem singleton (input c : String) : FirstNearest input [c] c :=
  ⟨[], [], rfl, by simp, by simp⟩

/-- One more candidate that is no nearer changes nothing. -/
theorem concat_of_le (h : FirstNearest input candidates c)
    (hd : byteDistance input c ≤ byteDistance input d) :
    FirstNearest input (candidates ++ [d]) c := by
  obtain ⟨before, after, rfl, hbefore, hafter⟩ := h
  refine ⟨before, after ++ [d], by simp, hbefore, fun e he => ?_⟩
  rcases List.mem_append.mp he with he | he
  · exact hafter e he
  · exact List.mem_singleton.mp he ▸ hd

/-- One more candidate that is nearer is the first such. -/
theorem concat_of_lt (h : FirstNearest input candidates c)
    (hd : byteDistance input d < byteDistance input c) :
    FirstNearest input (candidates ++ [d]) d :=
  ⟨candidates, [], rfl, fun _ he => hd.trans_le (h.le he), by simp⟩

end FirstNearest

/-- The best candidate of a list that is not empty is the first of the nearest ones. -/
theorem exists_foldl_nearer (input : String) (h : candidates ≠ []) :
    ∃ c, FirstNearest input candidates c ∧
      candidates.foldl (nearer input) none = some (c, byteDistance input c) := by
  induction candidates using List.reverseRecOn with
  | nil => exact absurd rfl h
  | append_singleton candidates d ih =>
      rw [List.foldl_append, List.foldl_cons, List.foldl_nil]
      by_cases hempty : candidates = []
      · subst hempty
        refine ⟨d, .singleton input d, ?_⟩
        rw [List.foldl_nil, nearer, editDistance_eq]
        rfl
      · obtain ⟨c, hc, hfold⟩ := ih hempty
        rw [hfold, nearer, editDistance_eq]
        by_cases hle : byteDistance input c ≤ byteDistance input d
        · exact ⟨c, hc.concat_of_le hle, if_pos hle⟩
        · exact ⟨d, hc.concat_of_lt (Nat.lt_of_not_le hle), if_neg hle⟩

theorem closest_nil (input : String) : closest input [] = none := rfl

/-- What is closest to a text in a list is its first nearest candidate, within two edits. -/
theorem exists_closest_eq (input : String) (h : candidates ≠ []) :
    ∃ c, FirstNearest input candidates c ∧
      closest input candidates = if byteDistance input c ≤ 2 then some c else none := by
  obtain ⟨c, hc, hfold⟩ := exists_foldl_nearer input h
  refine ⟨c, hc, ?_⟩
  rw [closest, hfold]

theorem mem_of_closest (h : closest input candidates = some c) : c ∈ candidates := by
  by_cases hempty : candidates = []
  · rw [hempty, closest_nil] at h
    cases h
  · obtain ⟨first, hfirst, hclosest⟩ := exists_closest_eq input hempty
    rw [hclosest] at h
    split_ifs at h
    exact Option.some.inj h ▸ hfirst.mem

/-- A candidate is itself the closest one. -/
theorem closest_of_mem (h : input ∈ candidates) : closest input candidates = some input := by
  obtain ⟨first, hfirst, hclosest⟩ := exists_closest_eq input (List.ne_nil_of_mem h)
  have hself : byteDistance input input = 0 := byteDistance_eq_zero_iff.mpr rfl
  have hzero : byteDistance input first = 0 := Nat.le_zero.mp (hself ▸ hfirst.le h)
  rw [hclosest, hzero, if_pos (Nat.zero_le 2), byteDistance_eq_zero_iff.mp hzero]

/-- The closest candidate is the first of the nearest ones if that is within two edits, and there
is none exactly when every candidate is more than two edits away. -/
theorem closest_eq_some_iff_and_eq_none_iff (input : String) (candidates : List String) :
    (∀ c, closest input candidates = some c ↔
      FirstNearest input candidates c ∧ byteDistance input c ≤ 2) ∧
    (closest input candidates = none ↔
      candidates = [] ∨ ∀ d ∈ candidates, 2 < byteDistance input d) := by
  by_cases hempty : candidates = []
  · subst hempty
    rw [closest_nil]
    refine ⟨fun c => ⟨nofun, fun h => ?_⟩, by simp⟩
    exact absurd h.1.mem List.not_mem_nil
  obtain ⟨first, hfirst, hclosest⟩ := exists_closest_eq input hempty
  rw [hclosest]
  constructor
  · intro c
    constructor
    · intro h
      split_ifs at h with hle
      obtain rfl := Option.some.inj h
      exact ⟨hfirst, hle⟩
    · rintro ⟨hc, hle⟩
      rw [hfirst.unique hc, if_pos hle]
  · constructor
    · intro h
      split_ifs at h with hle
      exact .inr fun d hd => (Nat.lt_of_not_le hle).trans_le (hfirst.le hd)
    · rintro (h | h)
      · exact absurd h hempty
      · exact if_neg (Nat.not_le.mpr (h first hfirst.mem))

end Blueprint.Text
