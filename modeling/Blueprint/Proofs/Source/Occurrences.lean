import Blueprint.Language.CSharp
import Blueprint.Proofs.Source.Repeats

/-!
# The order of repeated paths

Repeated paths are told in the order in which they come back: by the places at which they stand for
the second time. That is the order of their first places as long as no repeated path comes back
ahead of one that it first stood behind.
-/

namespace Blueprint

/-- The path stands at the place, and `n` times before it. -/
def StandsAt (paths : List String) (n : Nat) (p : String) (i : Nat) : Prop :=
  paths[i]? = some p ∧ (paths.take i).count p = n

/-- When both have stood `n` times, the one path comes again ahead of the other. -/
def ComesBefore (paths : List String) (n : Nat) (p q : String) : Prop :=
  ∃ i j, StandsAt paths n p i ∧ StandsAt paths n q j ∧ i < j

theorem count_take_lt {paths : List String} {p : String} {i j : Nat} (hp : paths[i]? = some p)
    (hij : i < j) : (paths.take i).count p < (paths.take j).count p := by
  have hnext : (paths.take (i + 1)).count p = (paths.take i).count p + 1 := by
    simp [List.take_add_one, hp]
  have hle : (paths.take (i + 1)).count p ≤ (paths.take j).count p :=
    (List.take_sublist_take_left hij).count_le p
  omega

namespace StandsAt

variable {paths : List String} {n : Nat} {p q : String} {i j : Nat}

theorem place_eq (hi : StandsAt paths n p i) (hj : StandsAt paths n p j) : i = j := by
  have hlt := fun h => count_take_lt (i := i) (j := j) hi.1 h
  have hgt := fun h => count_take_lt (i := j) (j := i) hj.1 h
  rw [hi.2, hj.2] at hlt hgt
  omega

theorem path_eq (hp : StandsAt paths n p i) (hq : StandsAt paths n q i) : p = q :=
  Option.some.inj (hp.1.symm.trans hq.1)

end StandsAt

theorem exists_standsAt {paths : List String} {n : Nat} {p : String} (h : n < paths.count p) :
    ∃ i, StandsAt paths n p i := by
  induction paths generalizing n with
  | nil => simp at h
  | cons x paths ih =>
      rw [List.count_cons] at h
      by_cases hx : x = p
      · cases n with
        | zero => exact ⟨0, by simp [hx], by simp⟩
        | succ n =>
            obtain ⟨i, hi, hcount⟩ := ih (n := n) (by simpa [hx] using h)
            exact ⟨i + 1, by simpa using hi, by simp [hx, hcount]⟩
      · obtain ⟨i, hi, hcount⟩ := ih (n := n) (by simpa [hx] using h)
        exact ⟨i + 1, by simpa using hi, by simp [hx, hcount]⟩

/-! ### Second places -/

/-- A path that is yet to be told stands for the second time behind the one that is looked at. -/
theorem StandsAt.of_mem_repeatsAfter {before paths : List String} {x p : String} {i : Nat}
    (hp : p ∈ repeatsAfter (x :: before) paths)
    (hi : StandsAt (x :: paths) (1 - before.count p) p i) :
    ∃ k, i = k + 1 ∧ StandsAt paths (1 - (x :: before).count p) p k := by
  obtain ⟨hseen, -⟩ := (mem_repeatsAfter_iff (x :: before) paths).mp hp
  obtain ⟨hpath, hcount⟩ := hi
  cases i with
  | zero =>
      obtain rfl : x = p := by simpa using hpath
      rw [List.count_cons_self] at hseen
      simp only [List.take_zero, List.count_nil] at hcount
      omega
  | succ k =>
      refine ⟨k, rfl, by simpa using hpath, ?_⟩
      rw [List.take_succ_cons, List.count_cons] at hcount
      rw [List.count_cons] at hseen ⊢
      omega

theorem pairwise_repeatsAfter (before paths : List String) :
    (repeatsAfter before paths).Pairwise fun p q => ∀ i j,
      StandsAt paths (1 - before.count p) p i → StandsAt paths (1 - before.count q) q j →
        i < j := by
  induction paths generalizing before with
  | nil => exact .nil
  | cons x paths ih =>
      have htail : (repeatsAfter (x :: before) paths).Pairwise fun p q => ∀ i j,
          StandsAt (x :: paths) (1 - before.count p) p i →
            StandsAt (x :: paths) (1 - before.count q) q j → i < j := by
        refine (ih (x :: before)).imp_of_mem fun hp hq hlt i j hi hj => ?_
        obtain ⟨i, rfl, hi'⟩ := hi.of_mem_repeatsAfter hp
        obtain ⟨j, rfl, hj'⟩ := hj.of_mem_repeatsAfter hq
        exact Nat.succ_lt_succ (hlt i j hi' hj')
      rw [repeatsAfter]
      split_ifs with hcount
      · refine List.pairwise_cons.mpr ⟨fun q hq i j hi hj => ?_, htail⟩
        -- The path that is told now stands in front, where it comes back.
        have hfront : StandsAt (x :: paths) (1 - before.count x) x 0 := ⟨rfl, by simp [hcount]⟩
        obtain ⟨j, rfl, -⟩ := hj.of_mem_repeatsAfter hq
        rw [hi.place_eq hfront]
        exact Nat.succ_pos j
      · exact htail

/-! ### Two orders -/

theorem rel_or_rel_of_pairwise {α : Type} {r : α → α → Prop} {as : List α} (h : as.Pairwise r)
    {a b : α} (ha : a ∈ as) (hb : b ∈ as) (hne : a ≠ b) : r a b ∨ r b a := by
  have hsymm : Std.Symm fun a b => r a b ∨ r b a := ⟨fun _ _ => Or.symm⟩
  have hor : as.Pairwise fun a b => r a b ∨ r b a := h.imp Or.inl
  exact hor.forall ha hb hne

section Order

variable {files : List SourceFile} {p q : String}

theorem exists_standsAt_of_mem_repeatedPaths (hp : p ∈ repeatedPaths files) {n : Nat}
    (hn : n ≤ 1) : ∃ i, StandsAt (files.map SourceFile.path) n p i :=
  exists_standsAt (by have := mem_repeatedPaths_iff_count.mp hp; omega)

theorem pairwise_repeatedPaths :
    (repeatedPaths files).Pairwise (ComesBefore (files.map SourceFile.path) 1) := by
  refine (pairwise_repeatsAfter [] _).imp_of_mem fun {p q}
    (hp : p ∈ repeatedPaths files) (hq : q ∈ repeatedPaths files) hlt => ?_
  obtain ⟨i, hi⟩ := exists_standsAt_of_mem_repeatedPaths hp le_rfl
  obtain ⟨j, hj⟩ := exists_standsAt_of_mem_repeatedPaths hq le_rfl
  exact ⟨i, j, hi, hj, hlt i j hi hj⟩

theorem ComesBefore.not_symm {paths : List String} {n : Nat} (h : ComesBefore paths n p q) :
    ¬ ComesBefore paths n q p := by
  rintro ⟨j', i', hj', hi', hlt'⟩
  obtain ⟨i, j, hi, hj, hlt⟩ := h
  rw [hi'.place_eq hi, hj'.place_eq hj] at hlt'
  omega

theorem ComesBefore.trichotomy (hp : p ∈ repeatedPaths files) (hq : q ∈ repeatedPaths files)
    (hne : p ≠ q) {n : Nat} (hn : n ≤ 1) :
    ComesBefore (files.map SourceFile.path) n p q ∨
      ComesBefore (files.map SourceFile.path) n q p := by
  obtain ⟨i, hi⟩ := exists_standsAt_of_mem_repeatedPaths hp hn
  obtain ⟨j, hj⟩ := exists_standsAt_of_mem_repeatedPaths hq hn
  rcases Nat.lt_trichotomy i j with hlt | rfl | hgt
  · exact .inl ⟨i, j, hi, hj, hlt⟩
  · exact absurd (hi.path_eq hj) hne
  · exact .inr ⟨j, i, hj, hi, hgt⟩

end Order

/-- The paths that occur at least twice are told once each, in the order of their second places;
and in the order of their first places exactly when no two of them come back the other way round. -/
theorem repeatedPaths_by_return (files : List SourceFile) :
    let paths := files.map SourceFile.path
    let told := repeatedPaths files
    told.Nodup ∧ (∀ p, p ∈ told ↔ 2 ≤ paths.count p) ∧ told.Pairwise (ComesBefore paths 1) ∧
      (told.Pairwise (ComesBefore paths 0) ↔
        ∀ p ∈ told, ∀ q ∈ told, ComesBefore paths 0 p q → ComesBefore paths 1 p q) := by
  intro paths told
  have hnodup : told.Nodup := nodup_repeatsAfter [] paths
  have hreturn : told.Pairwise (ComesBefore paths 1) := pairwise_repeatedPaths
  refine ⟨hnodup, fun p => mem_repeatedPaths_iff_count, hreturn, fun hfirst => ?_, fun hkeep => ?_⟩
  · intro p hp q hq hpq
    have hne : p ≠ q := by
      rintro rfl
      exact hpq.not_symm hpq
    obtain ⟨-, h⟩ | ⟨h, -⟩ := rel_or_rel_of_pairwise (hfirst.and hreturn) hp hq hne
    · exact h
    · exact absurd h hpq.not_symm
  · refine (hreturn.and hnodup).imp_of_mem fun {p q} hp hq hpq => ?_
    obtain h | h := ComesBefore.trichotomy hp hq hpq.2 (Nat.zero_le 1)
    · exact h
    · exact absurd (hkeep q hq p hp h) hpq.1.not_symm

/-- Four values of two names, where the second name comes back first. -/
def overtaking : Graph :=
  { Graph.empty "Trips" with
    valueObjects := [⟨⟨"a"⟩, "A", []⟩, ⟨⟨"b"⟩, "B", []⟩, ⟨⟨"c"⟩, "B", []⟩, ⟨⟨"d"⟩, "A", []⟩] }

theorem not_by_first_place_of_overtaking :
    ¬ (repeatedPaths (overtaking.sources Language.csharp)).Pairwise
      (ComesBefore ((overtaking.sources Language.csharp).map SourceFile.path) 0) := by
  have htold : repeatedPaths (overtaking.sources Language.csharp) =
      ["/Domain/ValueObjects/B.cs", "/Domain/ValueObjects/A.cs"] := by decide
  have hpaths : (overtaking.sources Language.csharp).map SourceFile.path =
      ["/Domain/ValueObjects/A.cs", "/Domain/ValueObjects/B.cs", "/Domain/ValueObjects/B.cs",
        "/Domain/ValueObjects/A.cs"] := by decide
  rw [htold, hpaths]
  intro hfirst
  have hback := (List.pairwise_cons.mp hfirst).1 "/Domain/ValueObjects/A.cs" (by simp)
  refine hback.not_symm ⟨0, 1, ⟨rfl, rfl⟩, ⟨rfl, by decide⟩, Nat.zero_lt_one⟩

end Blueprint
