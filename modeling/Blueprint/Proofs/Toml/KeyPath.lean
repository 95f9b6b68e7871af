import Blueprint.Proofs.Toml.Overlay
import Mathlib.Data.List.Infix

/-!
# Values at paths of keys

A path of keys leads through nested tables. `Shows` tells what stands at a path, where a table is
told from other values and not from other tables. What shows when one table is laid over another is
told by what shows in the two. Tables in order that show the same at every path are equal, so the
laws of overlays follow from this one.
-/

namespace Blueprint.Toml

variable {ms gs : List (String × Value)} {key : String} {path : List String} {v w : Value}
  {old leaf : Option Value}

theorem lookup_eq_some_iff (h : Sorted ms) : lookup key ms = some v ↔ (key, v) ∈ ms :=
  Keyed.Sorted.find?_value_eq_some_iff h

/-- A table in order is told by what is found in it. -/
theorem eq_of_lookup_eq (hms : Sorted ms) (hgs : Sorted gs)
    (h : ∀ key, lookup key ms = lookup key gs) : ms = gs := by
  refine Keyed.Sorted.eq_of_mem_iff hms hgs fun ⟨key, v⟩ => ?_
  rw [← lookup_eq_some_iff hms, ← lookup_eq_some_iff hgs, h]

namespace Value

def isTable : Value → Bool
  | .table _ => true
  | _ => false

/-- The value itself, unless it is a table. -/
def leaf? : Value → Option Value
  | .table _ => none
  | v => some v

/-- The value at a path of keys. -/
def at? : Value → List String → Option Value
  | v, [] => some v
  | v, key :: path => (v.members?.bind (lookup key)).bind fun w => w.at? path

/-- What stands at a path shows as this leaf, or as a table where there is none. -/
def Shows (v : Value) (path : List String) (leaf : Option Value) : Prop :=
  ∃ w, v.at? path = some w ∧ w.leaf? = leaf

/-- Nothing but tables stands on the way to a path. -/
def Clear (v : Value) (path : List String) : Prop :=
  ∀ front, front <+: path → front ≠ path → ∀ w, v.at? front = some w → w.isTable

/-! ### Leaves -/

theorem table_or_leaf (v : Value) : (∃ ms, v = .table ms) ∨ v.leaf? = some v := by
  cases v with
  | table ms => exact .inl ⟨ms, rfl⟩
  | scalar x => exact .inr rfl
  | array vs => exact .inr rfl

theorem exists_eq_table (h : v.leaf? = none) : ∃ ms, v = .table ms := by
  obtain hv | hv := v.table_or_leaf
  · exact hv
  · rw [hv] at h
    cases h

theorem leaf?_eq_some_iff : v.leaf? = some w ↔ v = w ∧ v.isTable = false := by
  cases v <;> simp [leaf?, isTable]

theorem members?_of_leaf (h : v.leaf? = some v) : v.members? = none := by
  cases v with
  | table ms => cases h
  | scalar x => rfl
  | array vs => rfl

theorem overlay_of_leaf (h : v.leaf? = some v) (old : Option Value) : overlay old v = v := by
  cases v with
  | table ms => cases h
  | scalar x => exact overlay_scalar old x
  | array vs =>
      rw [overlay]
      intro ms hms
      cases hms

/-- Nothing is left of what is no table when a value is laid over it. -/
theorem overlay_of_forall_leaf (h : ∀ w ∈ old, w.leaf? = some w) (v : Value) :
    overlay old v = v := by
  obtain ⟨ms, rfl⟩ | hv := v.table_or_leaf
  · rw [overlay]
    rintro gs rfl
    cases h _ rfl
  · exact overlay_of_leaf hv old

theorem table_or_leaves (old : Option Value) :
    (∃ gs, old = some (.table gs)) ∨ ∀ w ∈ old, w.leaf? = some w := by
  cases old with
  | none => exact .inr fun w hw => by cases hw
  | some w =>
      obtain ⟨gs, rfl⟩ | hw := w.table_or_leaf
      · exact .inl ⟨gs, rfl⟩
      · refine .inr fun x hx => ?_
        rwa [← Option.some.inj hx]

theorem leaf?_overlay (old : Option Value) (v : Value) : (overlay old v).leaf? = v.leaf? := by
  obtain ⟨ms, rfl⟩ | hv := v.table_or_leaf
  · obtain ⟨gs, rfl⟩ | hold := table_or_leaves old
    · rw [overlay_table]
      rfl
    · rw [overlay_of_forall_leaf hold]
  · rw [overlay_of_leaf hv]

/-! ### Paths -/

theorem at?_cons_of_leaf (h : v.leaf? = some v) : v.at? (key :: path) = none := by
  rw [at?, members?_of_leaf h]
  rfl

theorem at?_table_cons : (table ms).at? (key :: path) = (lookup key ms).bind (·.at? path) := rfl

theorem shows_nil_iff : v.Shows [] leaf ↔ v.leaf? = leaf := by
  simp [Shows, at?]

theorem not_shows_cons_of_leaf (h : v.leaf? = some v) : ¬ v.Shows (key :: path) leaf := by
  rintro ⟨w, hw, -⟩
  rw [at?_cons_of_leaf h] at hw
  cases hw

theorem shows_table_cons_iff : (table ms).Shows (key :: path) leaf ↔
    ∃ w, lookup key ms = some w ∧ w.Shows path leaf := by
  simp only [Shows, at?_table_cons, Option.bind_eq_some_iff]
  grind

theorem shows_some_iff : v.Shows path (some w) ↔ v.at? path = some w ∧ w.isTable = false := by
  constructor
  · rintro ⟨w', hat, hleaf⟩
    obtain ⟨rfl, htable⟩ := leaf?_eq_some_iff.mp hleaf
    exact ⟨hat, htable⟩
  · rintro ⟨hat, htable⟩
    exact ⟨w, hat, leaf?_eq_some_iff.mpr ⟨rfl, htable⟩⟩

theorem not_clear_cons_of_leaf (h : v.leaf? = some v) : ¬ v.Clear (key :: path) := by
  intro hclear
  have htable := hclear [] List.nil_prefix (by simp) v rfl
  rw [(leaf?_eq_some_iff.mp h).2] at htable
  cases htable

theorem clear_table_cons_iff : (table ms).Clear (key :: path) ↔
    ∀ w, lookup key ms = some w → w.Clear path := by
  constructor
  · intro h w hw front hfront hne x hx
    refine h (key :: front) (List.cons_prefix_cons.mpr ⟨rfl, hfront⟩) (by simpa using hne) x ?_
    rw [at?_table_cons, hw]
    exact hx
  · intro h front hfront hne x hx
    obtain rfl | ⟨front, rfl, hfront⟩ := List.prefix_cons_iff.mp hfront
    · cases hx
      rfl
    · obtain ⟨w, hw, hx⟩ := Option.bind_eq_some_iff.mp hx
      exact h w hw front (List.cons_prefix_cons.mp hfront).2 (by simpa using hne) x hx

/-! ### Order -/

/-- Keys increase in the table that a value is, and in all tables inside it. -/
inductive Ordered : Value → Prop where
  | leaf {v : Value} (h : v.leaf? = some v) : Ordered v
  | table {ms : List (String × Value)} (keys : Sorted ms)
      (values : ∀ key v, lookup key ms = some v → Ordered v) : Ordered (.table ms)

theorem ordered_empty : (Value.table []).Ordered :=
  .table sorted_nil fun key v h => by cases h

theorem Ordered.sorted (h : (Value.table ms).Ordered) : Sorted ms := by
  cases h with
  | leaf h => cases h
  | table keys _ => exact keys

theorem Ordered.lookup (h : (Value.table ms).Ordered) (hv : Toml.lookup key ms = some v) :
    v.Ordered := by
  cases h with
  | leaf h => cases h
  | table _ values => exact values key v hv

theorem Ordered.overlay (hv : v.Ordered) (hold : ∀ w ∈ old, w.Ordered) :
    (overlay old v).Ordered := by
  induction hv generalizing old with
  | leaf h =>
      rw [overlay_of_leaf h]
      exact .leaf h
  | @table ms keys values ih =>
      obtain ⟨gs, rfl⟩ | hleaf := table_or_leaves old
      · have hgs : (Value.table gs).Ordered := hold _ rfl
        rw [overlay_table]
        refine .table (hgs.sorted.merge ms) fun key v hv => ?_
        rw [lookup_merge keys, Option.or_eq_some_iff] at hv
        obtain hv | ⟨-, hv⟩ := hv
        · obtain ⟨w, hw, rfl⟩ := Option.map_eq_some_iff.mp hv
          exact ih key w hw fun x hx => hgs.lookup hx
        · exact hgs.lookup hv
      · rw [overlay_of_forall_leaf hleaf]
        exact .table keys values

/-- Values in order are told by what shows in them. -/
theorem Ordered.eq_of_shows (hv : v.Ordered) (hw : w.Ordered)
    (h : ∀ path leaf, v.Shows path leaf ↔ w.Shows path leaf) : v = w := by
  induction hv generalizing w with
  | @leaf v hv =>
      have hshows := (h [] (some v)).mp (shows_nil_iff.mpr hv)
      exact (leaf?_eq_some_iff.mp (shows_nil_iff.mp hshows)).1.symm
  | @table ms keys values ih =>
      have hshows := (h [] none).mp (shows_nil_iff.mpr rfl)
      obtain ⟨gs, rfl⟩ := exists_eq_table (shows_nil_iff.mp hshows)
      simp only [table.injEq]
      refine eq_of_lookup_eq keys hw.sorted fun key => ?_
      have hkey (path : List String) (leaf : Option Value) := h (key :: path) leaf
      simp only [shows_table_cons_iff] at hkey
      cases hms : Toml.lookup key ms with
      | none =>
          cases hgs : Toml.lookup key gs with
          | none => rfl
          | some y =>
              -- What is found on one side only would show as something there.
              obtain ⟨x, hx, -⟩ := (hkey [] y.leaf?).mpr ⟨y, hgs, shows_nil_iff.mpr rfl⟩
              rw [hms] at hx
              cases hx
      | some x =>
          obtain ⟨y, hgs, -⟩ := (hkey [] x.leaf?).mp ⟨x, hms, shows_nil_iff.mpr rfl⟩
          have hxy : x = y := ih key x hms (hw.lookup hgs) fun path leaf => by
            simpa [hms, hgs] using hkey path leaf
          rw [hgs, hxy]

/-! ### Overlays -/

/-- What is laid over a value shows wherever it has something. Elsewhere the value below shows,
where nothing but tables was laid over the way. -/
theorem shows_overlay_iff (hv : v.Ordered) : (overlay old v).Shows path leaf ↔
    v.Shows path leaf ∨
      (∃ w ∈ old, w.Shows path leaf) ∧ v.at? path = none ∧ v.Clear path := by
  -- The overlay goes down both values along the path, so the induction is on the path.
  induction path generalizing old v with
  | nil => simp [shows_nil_iff, leaf?_overlay, at?]
  | cons key path ih =>
      obtain ⟨ms, rfl⟩ | hleaf := v.table_or_leaf
      · obtain ⟨gs, rfl⟩ | hold := table_or_leaves old
        · rw [overlay_table, shows_table_cons_iff, shows_table_cons_iff, clear_table_cons_iff,
            at?_table_cons, lookup_merge hv.sorted]
          simp only [Option.mem_some, exists_eq_left', shows_table_cons_iff]
          cases hms : lookup key ms with
          | none => simp
          | some w => simpa using ih (hv.lookup hms)
        · have hnone : ¬ ∃ w ∈ old, w.Shows (key :: path) leaf := by
            rintro ⟨w, hw, hshows⟩
            exact not_shows_cons_of_leaf (hold w hw) hshows
          rw [overlay_of_forall_leaf hold, or_iff_left fun h => hnone h.1]
      · have hclear : ¬ v.Clear (key :: path) := not_clear_cons_of_leaf hleaf
        rw [overlay_of_leaf hleaf, or_iff_left fun h => hclear h.2.2]

end Value

namespace Item

mutual

theorem ordered_value : (item : Item) → item.value.Ordered
  | .scalar .. | .array .. | .tables .. => by
      rw [value]
      exact .leaf rfl
  | .table _ ms _ => by
      rw [value]
      exact .table (sorted_members ms) (ordered_of_lookup_members ms)

theorem ordered_of_lookup_members : (ms : Members) →
    ∀ key v, lookup key (members ms) = some v → v.Ordered
  | [], _, _, h => by
      rw [members] at h
      cases h
  | (k, item) :: rest, key, v, h => by
      rw [members, lookup_insert] at h
      split_ifs at h
      · exact Option.some.inj h ▸ ordered_value item
      · exact ordered_of_lookup_members rest key v h

end

theorem ordered_valueMembers (item : Item) : (Value.table item.valueMembers).Ordered := by
  cases item with
  | table _ ms _ => exact .table (sorted_members ms) (ordered_of_lookup_members ms)
  | scalar _ _ | array _ _ | tables _ _ => exact Value.ordered_empty

end Item

/-! ### Tables -/

/-- A table in order. -/
structure Table where
  members : List (String × Value)
  ordered : (Value.table members).Ordered

namespace Table

variable (base upper : Table)

def value (t : Table) : Value := .table t.members

/-- The table that a document is. -/
def ofItem (item : Item) : Table := ⟨item.valueMembers, item.ordered_valueMembers⟩

def empty : Table := ⟨[], Value.ordered_empty⟩

def merge : Table where
  members := Toml.merge base.members upper.members
  ordered := by
    rw [← overlay_table]
    exact upper.ordered.overlay fun w hw => Option.some.inj hw ▸ base.ordered

theorem eq_of_shows {s t : Table}
    (h : ∀ path leaf, s.value.Shows path leaf ↔ t.value.Shows path leaf) : s = t := by
  obtain ⟨ms, hms⟩ := s
  obtain ⟨gs, hgs⟩ := t
  obtain rfl : ms = gs := Value.table.inj (hms.eq_of_shows hgs h)
  rfl

theorem shows_merge_iff (path : List String) (leaf : Option Value) :
    (base.merge upper).value.Shows path leaf ↔ upper.value.Shows path leaf ∨
      base.value.Shows path leaf ∧ upper.value.at? path = none ∧ upper.value.Clear path := by
  have hvalue : (base.merge upper).value = overlay (some base.value) upper.value :=
    (overlay_table base.members upper.members).symm
  have hupper : upper.value.Ordered := upper.ordered
  rw [hvalue, Value.shows_overlay_iff hupper]
  simp

theorem merge_merge_self : (base.merge upper).merge upper = base.merge upper := by
  refine eq_of_shows fun path leaf => ?_
  rw [shows_merge_iff, shows_merge_iff]
  tauto

theorem empty_merge : empty.merge upper = upper := by
  refine eq_of_shows fun path leaf => ?_
  rw [shows_merge_iff, or_iff_left]
  rintro ⟨⟨w, hw, -⟩, hat, -⟩
  -- Nothing stands in an empty table but the table itself, and the overlay is one too.
  cases path with
  | nil => cases hat
  | cons key path => cases hw

theorem merge_empty : base.merge empty = base := rfl

/-- After one table is laid over another, a value that is no table stands where the upper table has
it, or where the lower one has it and the upper one has nothing there and nothing but tables on the
way. To lay a table over another again changes nothing, and neither does an empty one. -/
theorem merge_lays_over :
    (∀ path v, v.isTable = false →
      ((base.merge upper).value.at? path = some v ↔ upper.value.at? path = some v ∨
        base.value.at? path = some v ∧ upper.value.at? path = none ∧ upper.value.Clear path)) ∧
    (base.merge upper).merge upper = base.merge upper ∧
    empty.merge base = base ∧ base.merge empty = base := by
  refine ⟨fun path v hv => ?_, merge_merge_self base upper, empty_merge base, merge_empty base⟩
  simpa only [Value.shows_some_iff, hv, and_true] using shows_merge_iff base upper path (some v)

/-- A table with a table and a scalar in it. -/
def plainTheme : Table := ofItem <| .ofValue <| .table
  [("draw", .table [("ink", .scalar (.integer 1)), ("pen", .scalar (.integer 2))]),
    ("theme", .scalar (.string "plain"))]

/-- A table that has a table where the other has a scalar. -/
def darkTheme : Table := ofItem <| .ofValue <| .table
  [("draw", .table [("ink", .scalar (.integer 3))]), ("theme", .table [("dark", .array [])])]

theorem merge_lays_over_of_darkTheme :
    (Value.scalar (.integer 2)).isTable = false ∧
      (plainTheme.merge darkTheme).value.at? ["draw", "pen"] = some (.scalar (.integer 2)) ∧
      (Value.scalar (.string "plain")).isTable = false ∧
      (plainTheme.merge darkTheme).value.at? ["theme"] ≠ some (.scalar (.string "plain")) := by
  have h := (merge_lays_over plainTheme darkTheme).1
  refine ⟨rfl, (h _ _ rfl).mpr (.inr ⟨rfl, rfl, ?_⟩), rfl, fun htheme => ?_⟩
  · refine Value.clear_table_cons_iff.mpr fun w hw => ?_
    obtain rfl := Option.some.inj hw
    refine Value.clear_table_cons_iff.mpr fun w hw => ?_
    cases hw
  · obtain hupper | ⟨-, hnone, -⟩ := (h _ _ rfl).mp htheme
    · cases hupper
    · cases hnone

end Table

end Blueprint.Toml
