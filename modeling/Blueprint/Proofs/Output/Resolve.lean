import Blueprint.Output.Plan
import Blueprint.Proofs.Path

/-!
# What resolves, and where to

`names` are the named components of a generated path. The path resolves exactly when no component
leads upwards and there is a name, and its target is the root continued by the names. Two targets
below one root are the same place exactly when the names are equal, however they were spelled. The
names are told by the text: they are what stands between separators, but for empty parts and dots.
-/

namespace Blueprint.Output

/-- The named components of a generated path, in order. -/
def names (generated : String) : List String :=
  (relative generated).components.filterMap Component.name?

theorem mem_names_iff {generated s : String} :
    s ∈ names generated ↔ .name s ∈ (relative generated).components := by
  simp only [names, List.mem_filterMap, Component.name?_eq_some_iff, exists_eq_right]

theorem isName_of_mem_names {generated s : String} (h : s ∈ names generated) : IsName s :=
  Path.isName_of_mem_components (mem_names_iff.mp h)

theorem names_eq (generated : String) :
    names generated = (relative generated).named.filterMap Component.name? := by
  have hstart : (relative generated).start.filterMap Component.name? = [] := by
    rw [List.filterMap_eq_nil_iff]
    intro c hc
    have := Path.start_subset _ hc
    cases c <;> simp_all [Component.name?]
  rw [names, Path.components_eq, List.filterMap_append, hstart, List.nil_append]

/-- One separator in front is all that gets lost. -/
theorem named_relative {generated : String} {t : List Char} (h : generated.toList = '/' :: t)
    (ht : ∀ c ∈ t.head?, c ≠ '/' ∧ c ≠ '\\') :
    (relative generated).named = (Path.mk generated).named := by
  have hdrop : t.dropWhile (fun c => c = '/' || c = '\\') = t := by
    cases t with
    | nil => rfl
    | cons c t =>
        obtain ⟨hslash, hback⟩ := ht c rfl
        exact List.dropWhile_cons_of_neg (by simp [hslash, hback])
  have hrelative : (relative generated).text.toList = t := by
    rw [relative, String.toList_ofList, h, List.dropWhile_cons_of_pos (by simp), hdrop]
  have hnamed := Path.named_of_slash (u := []) (p := ⟨generated⟩) h
  rw [hnamed, Path.named, Path.parts, hrelative]
  rfl

theorem descent?_eq_some_iff {cs : List Component} {ns : List String} :
    descent? cs = some ns ↔
      .root ∉ cs ∧ .parent ∉ cs ∧ ns = cs.filterMap Component.name? := by
  induction cs generalizing ns with
  | nil => simp [descent?, eq_comm]
  | cons c cs ih =>
      cases c with
      | root => simp [descent?]
      | parent => simp [descent?]
      | current => simp [descent?, ih, List.filterMap_cons]
      | name s =>
          rw [descent?, Option.map_eq_some_iff]
          constructor
          · rintro ⟨ms, hms, rfl⟩
            obtain ⟨hroot, hparent, rfl⟩ := ih.mp hms
            simp [hroot, hparent]
          · rintro ⟨hroot, hparent, rfl⟩
            simp only [List.mem_cons, reduceCtorEq, false_or] at hroot hparent
            exact ⟨_, ih.mpr ⟨hroot, hparent, rfl⟩, rfl⟩

theorem isAbsolute_relative (generated : String) : (relative generated).isAbsolute = false := by
  rw [Path.isAbsolute, beq_eq_false_iff_ne, relative, String.toList_ofList]
  intro h
  have := List.head?_dropWhile_not (fun c => decide (c = '/' ∨ c = '\\')) generated.toList
  simp_all

theorem root_not_mem_relative (generated : String) :
    .root ∉ (relative generated).components := by
  rw [Path.components_eq, List.mem_append]
  rintro (h | h)
  · rw [Path.start, isAbsolute_relative, if_neg Bool.false_ne_true] at h
    split_ifs at h <;> simp at h
  · obtain h | ⟨s, h, _⟩ := Path.named_cases h <;> cases h

theorem resolve_eq_ok_iff {root t : Path} {generated : String} :
    resolve root generated = .ok t ↔ .parent ∉ (relative generated).components ∧
      names generated ≠ [] ∧ t = (names generated).foldl Path.push root := by
  have hroot := root_not_mem_relative generated
  by_cases hparent : .parent ∈ (relative generated).components
  · have hnone : descent? (relative generated).components = none := by
      rw [Option.eq_none_iff_forall_ne_some]
      intro ns hns
      exact (descent?_eq_some_iff.mp hns).2.1 hparent
    simp [resolve, hnone, hparent]
  · have hsome : descent? (relative generated).components = some (names generated) :=
      descent?_eq_some_iff.mpr ⟨hroot, hparent, rfl⟩
    rw [resolve, hsome]
    cases hnames : names generated with
    | nil => simp
    | cons n ns => simp [hparent, eq_comm]

theorem eq_of_resolve_eq_error {root : Path} {generated : String} {e : Failure}
    (h : resolve root generated = .error e) : e = .pathEscape generated root := by
  rw [resolve] at h
  split at h
  · cases h
  · exact (Except.error.inj h).symm

section Targets

variable {root t t' : Path} {p p' : String} (h : resolve root p = .ok t)
include h

theorem components_of_resolve : t.components = root.components ++ (names p).map .name := by
  obtain ⟨_, _, rfl⟩ := resolve_eq_ok_iff.mp h
  exact Path.components_foldl_push root fun s hs => isName_of_mem_names hs

theorem below_of_resolve : root.Below t :=
  ⟨names p, (resolve_eq_ok_iff.mp h).2.1, fun _ hs => isName_of_mem_names hs,
    components_of_resolve h⟩

theorem same_iff_of_resolve (h' : resolve root p' = .ok t') :
    t.same t' ↔ names p = names p' := by
  rw [Path.same_iff, components_of_resolve h, components_of_resolve h', List.append_cancel_left_eq]
  constructor
  · intro heq
    exact List.map_injective_iff.mpr (fun a b => Component.name.inj) heq
  · intro heq
    rw [heq]

end Targets

/-! ### Parts -/

/-- What stands between the separators of a generated path, those in front apart. -/
def parts (generated : String) : List String := (relative generated).parts.map String.ofList

theorem ofPart?_eq (s : String) : Component.ofPart? s.toList =
    if s = "" ∨ s = "." then none else if s = ".." then some .parent else some (.name s) := by
  have hempty : s.toList = [] ↔ s = "" := by simp
  have hdot : s.toList = ['.'] ↔ s = "." := by simp [← String.toList_inj]
  have hdots : s.toList = ['.', '.'] ↔ s = ".." := by simp [← String.toList_inj]
  simp only [Component.ofPart?, hempty, hdot, hdots, String.ofList_toList]

theorem named_relative_eq (generated : String) : (relative generated).named =
    (parts generated).filterMap fun s => Component.ofPart? s.toList := by
  rw [parts, List.filterMap_map, Path.named]
  exact List.filterMap_congr fun part _ => by rw [Function.comp_apply, String.toList_ofList]

theorem parent_mem_relative_iff (generated : String) :
    .parent ∈ (relative generated).components ↔ ".." ∈ parts generated := by
  rw [Path.parent_mem_components_iff, named_relative_eq, List.mem_filterMap]
  constructor
  · rintro ⟨s, hs, hparent⟩
    rw [ofPart?_eq] at hparent
    split_ifs at hparent with h0 h1
    · exact h1 ▸ hs
    · cases hparent
  · intro h
    exact ⟨_, h, rfl⟩

/-- Names are the parts that are neither empty nor dots. -/
theorem names_eq_filter (generated : String) :
    names generated = (parts generated).filter fun s => s ∉ ["", ".", ".."] := by
  rw [names_eq, named_relative_eq]
  induction parts generated with
  | nil => rfl
  | cons s rest ih =>
      rw [List.filterMap_cons, List.filter_cons, ofPart?_eq]
      split_ifs <;> simp_all [List.filterMap_cons, Component.name?]

/-- A generated path resolves exactly when no component leads upwards and one is a name. Its target
is then the root continued by its names, and two paths have one target exactly when their names are
equal. -/
theorem resolve_goes_down (root : Path) (p : String) :
    ((∃ t, resolve root p = .ok t) ↔ .parent ∉ (relative p).components ∧
      ∃ s, .name s ∈ (relative p).components) ∧
    (.parent ∈ (relative p).components ↔ ".." ∈ parts p) ∧
    names p = (parts p).filter (fun s => s ∉ ["", ".", ".."]) ∧
    (∀ t, resolve root p = .ok t → t = (names p).foldl Path.push root ∧
      t.components = root.components ++ (names p).map .name) ∧
    (∀ e, resolve root p = .error e → e = .pathEscape p root) ∧
    ∀ q t u, resolve root p = .ok t → resolve root q = .ok u →
      (t.same u ↔ names p = names q) := by
  refine ⟨?_, parent_mem_relative_iff p, names_eq_filter p, fun t ht => ?_,
    fun e => eq_of_resolve_eq_error, fun q t u ht hu => same_iff_of_resolve ht hu⟩
  · simp only [← mem_names_iff]
    constructor
    · rintro ⟨t, ht⟩
      obtain ⟨hparent, hnames, -⟩ := resolve_eq_ok_iff.mp ht
      exact ⟨hparent, List.exists_mem_of_ne_nil _ hnames⟩
    · rintro ⟨hparent, s, hs⟩
      exact ⟨_, resolve_eq_ok_iff.mpr ⟨hparent, List.ne_nil_of_mem hs, rfl⟩⟩
  · exact ⟨(resolve_eq_ok_iff.mp ht).2.2, components_of_resolve ht⟩

/-- Separators of both kinds in front, repeated ones inside, and a name with a backslash, below the
empty path. -/
theorem resolve_goes_down_of_backslash :
    ∃ t u, resolve ⟨""⟩ "\\/a//./b\\c/." = .ok t ∧ resolve ⟨""⟩ "a/b\\c" = .ok u ∧ t.same u ∧
      t.components = [.name "a", .name "b\\c"] := by
  have hp : resolve ⟨""⟩ "\\/a//./b\\c/." = .ok ⟨"a/b\\c"⟩ := by decide
  have hq : resolve ⟨""⟩ "a/b\\c" = .ok ⟨"a/b\\c"⟩ := by decide
  obtain ⟨-, -, -, htarget, -, hsame⟩ := resolve_goes_down ⟨""⟩ "\\/a//./b\\c/."
  refine ⟨_, _, hp, hq, (hsame _ _ _ hp hq).mpr (by decide), ?_⟩
  rw [(htarget _ hp).2]
  decide

end Blueprint.Output
