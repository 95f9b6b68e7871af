import Blueprint.Toml.Document
import Mathlib.Data.List.Infix

/-!
# Where the keys of a document come from

Whatever is done to the tables of a document while it is read, no key comes in but those that are
added. So a condition on keys holds all over the document, once it holds of all that are added.
-/

namespace Blueprint.Toml

/-- Every key in an item, however deep, meets a condition. -/
inductive Item.AllKeys (P : Key → Prop) : Item → Prop where
  | scalar (x : Scalar) (span : Option Span) : AllKeys P (.scalar x span)
  | array {items : List Item} (h : ∀ item ∈ items, AllKeys P item) (span : Option Span) :
      AllKeys P (.array items span)
  | tables {items : List Item} (h : ∀ item ∈ items, AllKeys P item) (span : Option Span) :
      AllKeys P (.tables items span)
  | table {ms : Members} (hkeys : ∀ m ∈ ms, P m.1) (hitems : ∀ m ∈ ms, AllKeys P m.2)
      (kind : TableKind) (span : Option Span) : AllKeys P (.table kind ms span)

/-- Every key in a list of members, their own included, meets a condition. -/
def Members.AllKeys (P : Key → Prop) (ms : Members) : Prop :=
  ∀ m ∈ ms, P m.1 ∧ m.2.AllKeys P

variable {P : Key → Prop} {key : Key} {item table table' : Item} {items : List Item} {ms : Members}
  {kind : TableKind} {span : Option Span}

namespace Item

theorem allKeys_table_iff : AllKeys P (.table kind ms span) ↔ Members.AllKeys P ms := by
  constructor
  · rintro (_ | _ | _ | ⟨hkeys, hitems⟩)
    exact fun m hm => ⟨hkeys m hm, hitems m hm⟩
  · exact fun h => .table (fun m hm => (h m hm).1) (fun m hm => (h m hm).2) kind span

theorem allKeys_tables_iff : AllKeys P (.tables items span) ↔ ∀ item ∈ items, item.AllKeys P := by
  constructor
  · rintro (_ | _ | h)
    exact h
  · exact fun h => .tables h span

theorem allKeys_place_iff (s : Span) : (item.place s).AllKeys P ↔ item.AllKeys P := by
  cases item with
  | scalar x span => exact ⟨fun _ => .scalar x span, fun _ => .scalar x _⟩
  | array items span =>
      constructor
      · rintro (_ | h)
        exact .array h span
      · rintro (_ | h)
        exact .array h _
  | tables items span => exact allKeys_tables_iff.trans allKeys_tables_iff.symm
  | table kind ms span => exact allKeys_table_iff.trans allKeys_table_iff.symm

end Item

namespace Members.AllKeys

theorem nil : Members.AllKeys P [] := List.forall_mem_nil _

theorem findMember (h : Members.AllKeys P ms) {k : String}
    (hitem : findMember k ms = some item) : item.AllKeys P := by
  obtain ⟨m, hm, rfl⟩ := Option.map_eq_some_iff.mp hitem
  exact (h m (List.mem_of_find?_eq_some hm)).2

theorem findMember_getD (h : Members.AllKeys P ms) (k : String) (hitem : item.AllKeys P) :
    ((Toml.findMember k ms).getD item).AllKeys P := by
  cases hfind : Toml.findMember k ms with
  | none => exact hitem
  | some found => exact h.findMember hfind

/-- The tables of a list, or of none. -/
theorem listed (h : Members.AllKeys P ms) {k : String}
    (heq : (Toml.findMember k ms).getD (.tables [] none) = .tables items span) :
    ∀ item ∈ items, item.AllKeys P := by
  refine Item.allKeys_tables_iff.mp (heq ▸ h.findMember_getD k ?_)
  exact Item.allKeys_tables_iff.mpr (List.forall_mem_nil _)

theorem append (h : Members.AllKeys P ms) (hkey : P key) (hitem : item.AllKeys P) :
    Members.AllKeys P (ms ++ [(key, item)]) :=
  List.forall_mem_append.mpr ⟨h, List.forall_mem_singleton.mpr ⟨hkey, hitem⟩⟩

/-- A key that is there already stays, so the new one need only be known when it is not. -/
theorem putMember (h : Members.AllKeys P ms) (hkey : P key) (hitem : item.AllKeys P) :
    Members.AllKeys P (putMember key item ms) := by
  induction ms with
  | nil => exact List.forall_mem_singleton.mpr ⟨hkey, hitem⟩
  | cons m ms ih =>
      obtain ⟨hm, hms⟩ := List.forall_mem_cons.mp h
      rw [Toml.putMember]
      split_ifs
      · exact List.forall_mem_cons.mpr ⟨⟨hm.1, hitem⟩, hms⟩
      · exact List.forall_mem_cons.mpr ⟨hm, ih hms⟩

theorem dropMember (h : Members.AllKeys P ms) (k : String) :
    Members.AllKeys P (dropMember k ms) := fun m hm => h m (List.mem_of_mem_filter hm)

end Members.AllKeys

/-- A table with keys that meet a condition. -/
def Item.TableOf (P : Key → Prop) (item : Item) : Prop :=
  ∃ kind ms span, item = .table kind ms span ∧ Members.AllKeys P ms

theorem Item.TableOf.allKeys (h : item.TableOf P) : item.AllKeys P := by
  obtain ⟨kind, ms, span, rfl, hms⟩ := h
  exact Item.allKeys_table_iff.mpr hms

/-! ### Changes below a table -/

/-- What a change gives is a table, and no key comes in that does not meet a condition. -/
def KeepsKeys (P : Key → Prop) (change : Item → Option Item) : Prop :=
  ∀ table table' : Item, table.AllKeys P → change table = some table' → table'.TableOf P

theorem addMember_keepsKeys (hkey : P key) (hitem : item.AllKeys P) :
    KeepsKeys P (addMember key item) := by
  intro table table' htable h
  unfold addMember at h
  split at h
  · split_ifs at h
    cases h
    exact ⟨_, _, _, rfl, (Item.allKeys_table_iff.mp htable).append hkey hitem⟩
  · cases h

theorem KeepsKeys.alter {change : Item → Option Item} (hchange : KeepsKeys P change) (r : Route)
    {path : List Key} (hpath : ∀ k ∈ path, P k) : KeepsKeys P (alter r change path) := by
  induction path with
  | nil =>
      intro table table' htable h
      rw [Toml.alter] at h
      exact hchange _ _ htable h
  | cons key path ih =>
      obtain ⟨hkey, hpath⟩ := List.forall_mem_cons.mp hpath
      intro table table' htable h
      cases table with
      | table kind ms span =>
          rw [Toml.alter] at h
          obtain ⟨child, hchild, h⟩ := Option.map_eq_some_iff.mp h
          cases h
          have hms := Item.allKeys_table_iff.mp htable
          refine ⟨_, _, _, rfl, hms.putMember hkey ?_⟩
          -- The item on the way is an old one, or a table without members.
          have hempty : (Item.table r.fresh [] none).AllKeys P := Item.allKeys_table_iff.mpr .nil
          have hbelow := hms.findMember_getD key.name hempty
          split at hchild
          next items span heq =>
            rw [heq, Item.allKeys_tables_iff] at hbelow
            split at hchild
            next last hlast =>
              obtain ⟨last', hlast', hchild⟩ := Option.map_eq_some_iff.mp hchild
              cases hchild
              refine Item.allKeys_tables_iff.mpr (List.forall_mem_append.mpr
                ⟨fun i hi => hbelow i (List.mem_of_mem_dropLast hi),
                  List.forall_mem_singleton.mpr ?_⟩)
              exact (ih hpath _ _ (hbelow last (List.mem_of_getLast? hlast)) hlast').allKeys
            next => cases hchild
          next kind ms span heq =>
            rw [heq] at hbelow
            split_ifs at hchild
            exact (ih hpath _ _ hbelow hchild).allKeys
          next => cases hchild
      | _ => cases h

theorem addDotted_keepsKeys (r : Route) {path : List Key} (hpath : ∀ k ∈ path, P k) (hkey : P key)
    (hitem : item.AllKeys P) : KeepsKeys P (addDotted r path key item) := by
  refine KeepsKeys.alter ?_ r hpath
  intro table table' htable h
  dsimp only at h
  split at h
  · split_ifs at h
    exact addMember_keepsKeys hkey hitem _ _ htable h
  · cases h

/-! ### Drafts -/

namespace Draft

theorem pushTable_keepsKeys (hkey : P key) (hitem : item.AllKeys P) :
    KeepsKeys P (pushTable key item) := by
  intro table table' htable h
  unfold pushTable at h
  split at h
  next kind ms span =>
    have hms := Item.allKeys_table_iff.mp htable
    split at h
    next items stretch heq =>
      cases h
      refine ⟨_, _, _, rfl, hms.putMember hkey (Item.allKeys_tables_iff.mpr ?_)⟩
      exact List.forall_mem_append.mpr ⟨hms.listed heq, List.forall_mem_singleton.mpr hitem⟩
    next => cases h
  next => cases h

theorem reopen_allKeys {children : Members} (htable : table.AllKeys P)
    (h : reopen key table = some (table', children)) :
    table'.TableOf P ∧ Members.AllKeys P children := by
  unfold reopen at h
  split at h
  next kind ms span =>
    have hms := Item.allKeys_table_iff.mp htable
    split at h
    next =>
      cases h
      exact ⟨⟨_, _, _, rfl, hms⟩, .nil⟩
    next heq =>
      cases h
      exact ⟨⟨_, _, _, rfl, hms.dropMember _⟩, Item.allKeys_table_iff.mp (hms.findMember heq)⟩
    next => cases h
  next => cases h

theorem continued_allKeys {path : List Key} (htable : table.AllKeys P)
    (h : continued path key table = some ms) : Members.AllKeys P ms := by
  induction path generalizing table with
  | nil =>
      obtain ⟨⟨table', children⟩, hreopen, h⟩ := Option.map_eq_some_iff.mp h
      cases h
      exact (reopen_allKeys htable hreopen).2
  | cons k path ih =>
      cases table with
      | table kind members span =>
          have hms := Item.allKeys_table_iff.mp htable
          rw [continued] at h
          split at h
          next =>
            cases h
            exact .nil
          next items _ hfind =>
            obtain ⟨last, hlast, h⟩ := Option.bind_eq_some_iff.mp h
            have hitems := Item.allKeys_tables_iff.mp (hms.findMember hfind)
            exact ih (hitems last (List.mem_of_getLast? hlast)) h
          next child _ hfind => exact ih (hms.findMember hfind) h
      | _ => cases h

/-- Every key of a draft meets a condition, those on the way to the current table included. -/
structure AllKeys (P : Key → Prop) (d : Draft) : Prop where
  root : d.root.AllKeys P
  path : ∀ k ∈ d.current.path, P k
  key : ∀ k ∈ d.current.key, P k
  table : d.current.table.TableOf P

theorem allKeys_start : start.AllKeys P where
  root := Item.allKeys_table_iff.mpr .nil
  path := List.forall_mem_nil _
  key := fun _ h => nomatch h
  table := ⟨_, _, _, rfl, .nil⟩

namespace AllKeys

variable {d d' : Draft} {path : List Key}

theorem finish {root : Item} (hd : d.AllKeys P) (h : d.finish = some root) : root.TableOf P := by
  unfold Draft.finish at h
  split at h
  next =>
    cases h
    exact hd.table
  next key hkey =>
    have hP := hd.key key hkey
    split_ifs at h
    · exact (pushTable_keepsKeys hP hd.table.allKeys).alter .headers hd.path _ _ hd.root h
    · exact (addMember_keepsKeys hP hd.table.allKeys).alter .headers hd.path _ _ hd.root h

theorem openTable {s : Span} (hd : d.AllKeys P) (hpath : ∀ k ∈ path, P k) (hkey : P key)
    (h : d.openTable path key s = some d') : d'.AllKeys P := by
  obtain ⟨root, hfinish, h⟩ := Option.bind_eq_some_iff.mp h
  obtain ⟨ms, hcontinued, h⟩ := Option.bind_eq_some_iff.mp h
  obtain ⟨root', hreopen, h⟩ := Option.bind_eq_some_iff.mp h
  cases h
  have hroot := (hd.finish hfinish).allKeys
  have hdrop : KeepsKeys P fun table => (reopen key table).map (·.1) := by
    intro table table' htable h
    obtain ⟨⟨t, children⟩, ht, h⟩ := Option.map_eq_some_iff.mp h
    cases h
    exact (reopen_allKeys htable ht).1
  refine ⟨(hdrop.alter .headers hpath _ _ hroot hreopen).allKeys, hpath, ?_,
    ⟨_, _, _, rfl, continued_allKeys hroot hcontinued⟩⟩
  rintro k ⟨⟩
  exact hkey

theorem openListed {s : Span} (hd : d.AllKeys P) (hpath : ∀ k ∈ path, P k) (hkey : P key)
    (h : d.openListed path key s = some d') : d'.AllKeys P := by
  obtain ⟨root, hfinish, h⟩ := Option.bind_eq_some_iff.mp h
  obtain ⟨root', halter, h⟩ := Option.bind_eq_some_iff.mp h
  cases h
  have hroot : root'.AllKeys P := by
    refine (KeepsKeys.alter ?_ .headers hpath _ _ (hd.finish hfinish).allKeys halter).allKeys
    intro table table' htable h
    dsimp only at h
    split at h
    next kind ms span =>
      have hms := Item.allKeys_table_iff.mp htable
      split at h
      next items stretch heq =>
        cases h
        refine ⟨_, _, _, rfl, hms.putMember hkey ?_⟩
        exact Item.allKeys_tables_iff.mpr (hms.listed heq)
      next => cases h
    next => cases h
  refine ⟨hroot, hpath, ?_, ⟨_, _, _, rfl, .nil⟩⟩
  rintro k ⟨⟩
  exact hkey

theorem add (hd : d.AllKeys P) (hpath : ∀ k ∈ path, P k) (hkey : P key) (hitem : item.AllKeys P)
    (h : d.add path key item = some d') : d'.AllKeys P := by
  obtain ⟨table, htable, h⟩ := Option.bind_eq_some_iff.mp h
  cases h
  refine ⟨hd.root, hd.path, hd.key, addDotted_keepsKeys .dotted hpath hkey hitem _ _ ?_ htable⟩
  unfold stretchTo
  have hcurrent := hd.table.allKeys
  split
  next heq => exact Item.allKeys_table_iff.mpr (Item.allKeys_table_iff.mp (heq ▸ hcurrent))
  next => exact hcurrent

end AllKeys

end Draft

end Blueprint.Toml
