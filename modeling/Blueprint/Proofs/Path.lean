import Blueprint.Path
import Mathlib.Data.List.Basic

/-!
# Components of paths

`IsName` holds of the texts that are one named component by themselves, and every named component
of a path is such a text. Pushing names onto a path appends them to its components, whatever the
path looks like. Paths are ordered by their components, so they compare equal exactly when these
are equal.
-/

namespace Blueprint

/-- A text between separators that names something. -/
def IsName (s : String) : Prop := '/' ∉ s.toList ∧ s ≠ "" ∧ s ≠ "." ∧ s ≠ ".."

theorem not_mem_of_mem_splitOn {α : Type} [DecidableEq α] {a : α} {l part : List α}
    (h : part ∈ l.splitOn a) : a ∉ part := by
  induction l generalizing part with
  | nil =>
      obtain rfl : part = [] := by simpa using h
      simp
  | cons x l ih =>
      rw [List.splitOn_cons_eq_if_modifyHead] at h
      by_cases hx : x = a
      · rw [if_pos (beq_iff_eq.mpr hx)] at h
        rcases List.mem_cons.mp h with rfl | h
        · simp
        · exact ih h
      · rw [if_neg (by simpa using hx)] at h
        obtain ⟨first, rest, hl⟩ := List.exists_cons_of_ne_nil (List.splitOn_ne_nil a l)
        rw [hl, List.modifyHead_cons] at h
        rcases List.mem_cons.mp h with rfl | h
        · have hfirst : a ∉ first := ih (by simp [hl])
          simp [Ne.symm hx, hfirst]
        · exact ih (by simp [hl, h])

namespace Component

def name? : Component → Option String
  | .name s => some s
  | _ => none

@[simp] theorem name?_name (s : String) : (Component.name s).name? = some s := rfl

@[simp] theorem name?_current : current.name? = none := rfl

theorem name?_eq_some_iff {c : Component} {s : String} : c.name? = some s ↔ c = .name s := by
  cases c <;> simp [name?]

theorem ofPart?_of_isName {s : String} (hs : IsName s) : ofPart? s.toList = some (.name s) := by
  obtain ⟨_, hempty, hdot, hdots⟩ := hs
  have h0 : s.toList ≠ [] := fun h => hempty (String.toList_inj.mp h)
  have h1 : s.toList ≠ ['.'] := fun h => hdot (String.toList_inj.mp h)
  have h2 : s.toList ≠ ['.', '.'] := fun h => hdots (String.toList_inj.mp h)
  rw [ofPart?, if_neg (by simp [h0, h1]), if_neg h2, String.ofList_toList]

theorem ofPart?_cases {part : List Char} {c : Component} (hpart : '/' ∉ part)
    (h : ofPart? part = some c) : c = .parent ∨ ∃ s, c = .name s ∧ IsName s := by
  rw [ofPart?] at h
  split_ifs at h with h0 h1
  · exact .inl (Option.some_inj.mp h).symm
  · refine .inr ⟨_, (Option.some_inj.mp h).symm, ?_⟩
    rw [not_or] at h0
    rw [IsName, String.toList_ofList]
    refine ⟨hpart, ?_, ?_, ?_⟩
    · exact fun h => h0.1 (by simpa using congrArg String.toList h)
    · exact fun h => h0.2 (by simpa using congrArg String.toList h)
    · exact fun h => h1 (by simpa using congrArg String.toList h)

theorem compare_eq_iff {a b : Component} : a.compare b = .eq ↔ a = b := by
  cases a <;> cases b <;> simp [Component.compare, compare.rank]

end Component

namespace Path

variable (p : Path)

/-- The components apart from what stands before them. -/
def named : List Component := p.parts.filterMap Component.ofPart?

theorem components_eq : p.components = p.start ++ p.named := rfl

theorem named_cases {p : Path} {c : Component} (h : c ∈ p.named) :
    c = .parent ∨ ∃ s, c = .name s ∧ IsName s := by
  obtain ⟨part, hpart, hc⟩ := List.mem_filterMap.mp h
  exact Component.ofPart?_cases (not_mem_of_mem_splitOn hpart) hc

theorem start_subset : p.start ⊆ [.root, .current] := by
  rw [start]
  split_ifs <;> simp

theorem parent_mem_components_iff : .parent ∈ p.components ↔ .parent ∈ p.named := by
  rw [components_eq, List.mem_append, or_iff_right]
  intro h
  have := start_subset p h
  simp at this

theorem isName_of_mem_components {p : Path} {s : String} (h : .name s ∈ p.components) :
    IsName s := by
  rw [components_eq, List.mem_append] at h
  rcases h with h | h
  · have := start_subset p h
    simp at this
  · obtain h | ⟨t, h, ht⟩ := named_cases h
    · cases h
    · rwa [Component.name.inj h]

/-! ### Separators -/

section Slash

variable {p q : Path} {u t : List Char}

theorem named_of_slash (hp : p.text.toList = u ++ '/' :: t) :
    p.named = (u.splitOn '/').filterMap Component.ofPart? ++
      (t.splitOn '/').filterMap Component.ofPart? := by
  rw [named, parts, hp, List.splitOn_append_cons_self, List.filterMap_append]

theorem head?_parts_of_slash (hp : p.text.toList = u ++ '/' :: t) :
    p.parts.head? = (u.splitOn '/').head? := by
  rw [parts, hp, List.splitOn_append_cons_self,
    List.head?_append_of_ne_nil _ (List.splitOn_ne_nil _ _)]

theorem start_of_slash (hu : u ≠ []) (hp : p.text.toList = u)
    (hq : q.text.toList = u ++ '/' :: t) : q.start = p.start := by
  have habs : q.isAbsolute = p.isAbsolute := by
    rw [isAbsolute, isAbsolute, hp, hq, List.head?_append_of_ne_nil _ hu]
  rw [start, start, habs, head?_parts_of_slash hq, parts, hp]

theorem start_congr_of_slash {t' : List Char} (hp : p.text.toList = u ++ '/' :: t)
    (hq : q.text.toList = u ++ '/' :: t') : q.start = p.start := by
  have habs : q.isAbsolute = p.isAbsolute := by
    rw [isAbsolute, isAbsolute, hp, hq, List.head?_append, List.head?_append]
    rfl
  rw [start, start, habs, head?_parts_of_slash hp, head?_parts_of_slash hq]

end Slash

/-! ### Names below a path -/

section Push

variable {s : String} (hs : IsName s)
include hs

theorem parts_of_isName : (Path.mk s).parts = [s.toList] := List.splitOn_eq_singleton hs.1

theorem isAbsolute_of_isName : (Path.mk s).isAbsolute = false := by
  rw [isAbsolute, beq_eq_false_iff_ne]
  intro h
  exact hs.1 (List.mem_of_head? h)

theorem named_of_isName : (Path.mk s).named = [.name s] := by
  rw [named, parts_of_isName hs]
  simp [Component.ofPart?_of_isName hs]

theorem components_of_isName : (Path.mk s).components = [.name s] := by
  have hdot : s.toList ≠ ['.'] := fun h => hs.2.2.1 (String.toList_inj.mp h)
  rw [components_eq, named_of_isName hs, start, isAbsolute_of_isName hs, parts_of_isName hs]
  simp [hdot]

theorem components_push : (p.push s).components = p.components ++ [.name s] := by
  have hsplit : (s.toList.splitOn '/').filterMap Component.ofPart? = [.name s] :=
    named_of_isName hs
  rw [push, join, isAbsolute_of_isName hs, if_neg Bool.false_ne_true]
  split_ifs with hempty hslash
  · have hp : p = ⟨""⟩ := by
      rw [String.isEmpty_iff] at hempty
      cases p
      rw [← hempty]
    rw [components_of_isName hs, hp]
    rfl
  · -- The text of the path ends with a separator, so the name only continues its last part.
    obtain ⟨u, hu⟩ := List.getLast?_eq_some_iff.mp (beq_iff_eq.mp hslash)
    have hq : (p.text ++ s).toList = u ++ '/' :: s.toList := by simp [hu]
    rw [components_eq, components_eq, start_congr_of_slash hu hq, named_of_slash hq,
      named_of_slash hu, hsplit]
    simp [Component.ofPart?]
  · have hne : p.text.toList ≠ [] := by simpa using hempty
    have hq : (p.text ++ "/" ++ s).toList = p.text.toList ++ '/' :: s.toList := by simp
    rw [components_eq, components_eq, start_of_slash hne rfl hq, named_of_slash hq, hsplit,
      List.append_assoc]
    rfl

end Push

theorem components_foldl_push {names : List String} (h : ∀ s ∈ names, IsName s) :
    (names.foldl push p).components = p.components ++ names.map .name := by
  induction names generalizing p with
  | nil => simp
  | cons s names ih =>
      rw [List.foldl_cons, ih _ fun t ht => h t (by simp [ht]), components_push p (h s (by simp))]
      simp

/-- A path that goes down from another by at least one name, never up. -/
def Below (p q : Path) : Prop :=
  ∃ names : List String, names ≠ [] ∧ (∀ s ∈ names, IsName s) ∧
    q.components = p.components ++ names.map .name

/-! ### Order -/

theorem compareComponents_eq_iff {as bs : List Component} :
    compareComponents as bs = .eq ↔ as = bs := by
  induction as generalizing bs with
  | nil => cases bs <;> simp [compareComponents]
  | cons a as ih =>
      cases bs with
      | nil => simp [compareComponents]
      | cons b bs =>
          rw [compareComponents, List.cons.injEq, ← ih, ← Component.compare_eq_iff]
          cases a.compare b <;> simp

theorem compare_eq_iff {p q : Path} : p.compare q = .eq ↔ p.components = q.components :=
  compareComponents_eq_iff

theorem same_iff {p q : Path} : p.same q ↔ p.components = q.components := by
  rw [same, beq_iff_eq]

theorem Below.of_same {p q r : Path} (h : p.Below q) (hr : r.same q) : p.Below r := by
  obtain ⟨names, hne, hnames, hq⟩ := h
  exact ⟨names, hne, hnames, (same_iff.mp hr).trans hq⟩

end Path

end Blueprint
