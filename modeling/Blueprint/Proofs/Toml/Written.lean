import Blueprint.Proofs.Toml.AllKeys
import Blueprint.Proofs.Toml.Rest

/-!
# Keys are written in the text

A document has only keys that are written in the text that it was read from, each at its own place.
-/

namespace Blueprint.Toml

/-- What is read from the end of a text has only keys that are written in the text, and what is left
is the end of what it is read from. -/
def ReadsWritten {α : Type} (text : List Char) (keys : α → Prop)
    (read : List Char → Option (α × List Char)) : Prop :=
  ∀ {s rest : List Char} {a : α}, s <:+ text → read s = some (a, rest) → rest <:+ s ∧ keys a

variable {text s rest : List Char} {src : Source}

theorem skipAll_suffix (s : List Char) : skipAll s <:+ s := skipLines_suffix _ s

theorem endLine_suffix (h : endLine s = some rest) : rest <:+ s := by
  unfold endLine at h
  split at h
  · cases h
    exact List.nil_suffix
  · exact (newline?_suffix h).trans ((skipComment_suffix _).trans (skipSpace_suffix s))

section Keys

variable (hsize : src.size = Text.byteSize text)
include hsize

theorem readKeys_written (n : Nat) :
    ReadsWritten text (fun keys => ∀ k ∈ keys, k.Written text) (readKeys src n) := by
  induction n with
  | zero => exact fun _ h => nomatch h
  | succ n ih =>
      intro s rest keys hs h
      obtain ⟨⟨key, t⟩, hkey, h⟩ := Option.bind_eq_some_iff.mp h
      have hspace := (skipSpace_suffix s).trans hs
      obtain ⟨ht, hwritten⟩ := readKey_written hsize hspace hkey
      have hafter : skipSpace t <:+ s :=
        (skipSpace_suffix t).trans (ht.trans (skipSpace_suffix s))
      dsimp only at h
      split at h
      next u hdot =>
        obtain ⟨⟨ks, v⟩, hks, h⟩ := Option.bind_eq_some_iff.mp h
        cases h
        have hu : u <:+ s := (List.suffix_cons '.' u).trans (hdot ▸ hafter)
        obtain ⟨hv, hkeys⟩ := ih (hu.trans hs) hks
        exact ⟨hv.trans hu, List.forall_mem_cons.mpr ⟨hwritten, hkeys⟩⟩
      next =>
        cases h
        exact ⟨hafter, List.forall_mem_singleton.mpr hwritten⟩

theorem readPath_written {path : List Key} {key : Key} (hs : s <:+ text)
    (h : readPath src s = some (path, key, rest)) :
    rest <:+ s ∧ (∀ k ∈ path, k.Written text) ∧ key.Written text := by
  obtain ⟨⟨keys, t⟩, hkeys, h⟩ := Option.bind_eq_some_iff.mp h
  obtain ⟨last, hlast, h⟩ := Option.bind_eq_some_iff.mp h
  split_ifs at h
  cases h
  obtain ⟨ht, hwritten⟩ := readKeys_written hsize _ hs hkeys
  exact ⟨ht, fun k hk => hwritten k (List.mem_of_mem_dropLast hk),
    hwritten key (List.mem_of_getLast? hlast)⟩

end Keys

/-! ### Values

A value and the items and members within it are read in turns. Each reader takes one step more than
those that it calls. -/

/-- Values that are read in so many steps have only keys that are written in the text. -/
def ReadsValues (text : List Char) (src : Source) (n : Nat) : Prop :=
  ∀ depth, ReadsWritten text (·.AllKeys (Key.Written text)) (readValue src n depth)

def ReadsItems (text : List Char) (src : Source) (n : Nat) : Prop :=
  ∀ depth, ReadsWritten text (fun items => ∀ item ∈ items, item.AllKeys (Key.Written text))
    (readItems src n depth)

def ReadsPairs (text : List Char) (src : Source) (n : Nat) : Prop :=
  ∀ depth table, table.AllKeys (Key.Written text) →
    ReadsWritten text (·.AllKeys (Key.Written text)) (readPairs src n depth · table)

theorem readValue_succ_written {n : Nat} (hitems : ReadsItems text src n)
    (hpairs : ReadsPairs text src n) : ReadsValues text src (n + 1) := by
  intro depth s rest item hs h
  unfold readValue at h
  obtain ⟨⟨inner, t⟩, hinner, h⟩ := Option.map_eq_some_iff.mp h
  cases h
  suffices hwithin : rest <:+ s ∧ inner.AllKeys (Key.Written text) from
    ⟨hwithin.1, (Item.allKeys_place_iff _).mpr hwithin.2⟩
  split at hinner
  next after =>
    split_ifs at hinner
    obtain ⟨⟨items, u⟩, hread, hinner⟩ := Option.map_eq_some_iff.mp hinner
    cases hinner
    have hafter := (skipAll_suffix after).trans (List.suffix_cons '[' after)
    obtain ⟨hu, hall⟩ := hitems _ (hafter.trans hs) hread
    exact ⟨hu.trans hafter, .array hall none⟩
  next after =>
    split_ifs at hinner
    have hafter := (skipSpace_suffix after).trans (List.suffix_cons '{' after)
    split at hinner
    next u hclose =>
      cases hinner
      exact ⟨(List.suffix_cons '}' _).trans (hclose ▸ hafter), Item.allKeys_table_iff.mpr .nil⟩
    next =>
      obtain ⟨hu, hall⟩ := hpairs _ _ (Item.allKeys_table_iff.mpr .nil) (hafter.trans hs) hinner
      exact ⟨hu.trans hafter, hall⟩
  next =>
    obtain ⟨⟨x, u⟩, hread, hinner⟩ := Option.map_eq_some_iff.mp hinner
    cases hinner
    exact ⟨readScalar_leavesEnd hread, .scalar x none⟩

theorem readItems_succ_written {n : Nat} (hvalue : ReadsValues text src n)
    (hitems : ReadsItems text src n) : ReadsItems text src (n + 1) := by
  intro depth s rest items hs h
  unfold readItems at h
  split at h
  next =>
    cases h
    exact ⟨List.suffix_cons _ _, List.forall_mem_nil _⟩
  next =>
    obtain ⟨⟨item, t⟩, hread, h⟩ := Option.bind_eq_some_iff.mp h
    obtain ⟨ht, hitem⟩ := hvalue _ hs hread
    have hafter := (skipAll_suffix t).trans ht
    dsimp only at h
    split at h
    next u hcomma =>
      obtain ⟨⟨others, v⟩, hothers, h⟩ := Option.bind_eq_some_iff.mp h
      cases h
      have hu : skipAll u <:+ s :=
        (skipAll_suffix u).trans ((List.suffix_cons ',' u).trans (hcomma ▸ hafter))
      obtain ⟨hv, hall⟩ := hitems _ (hu.trans hs) hothers
      exact ⟨hv.trans hu, List.forall_mem_cons.mpr ⟨hitem, hall⟩⟩
    next u hclose =>
      cases h
      exact ⟨(List.suffix_cons ']' _).trans (hclose ▸ hafter), List.forall_mem_singleton.mpr hitem⟩
    next => cases h

section Source

variable (hsize : src.size = Text.byteSize text)
include hsize

theorem readPairs_succ_written {n : Nat} (hvalue : ReadsValues text src n)
    (hpairs : ReadsPairs text src n) : ReadsPairs text src (n + 1) := by
  intro depth table htable s rest table' hs h
  obtain ⟨⟨path, key, t⟩, hpath, h⟩ := Option.bind_eq_some_iff.mp h
  obtain ⟨u, hequals, h⟩ := Option.bind_eq_some_iff.mp h
  obtain ⟨⟨item, v⟩, hread, h⟩ := Option.bind_eq_some_iff.mp h
  obtain ⟨joined, hjoined, h⟩ := Option.bind_eq_some_iff.mp h
  obtain ⟨ht, hwritten, hkey⟩ := readPath_written hsize hs hpath
  have hu : skipSpace u <:+ s := (skipSpace_suffix u).trans ((readChar_suffix hequals).trans ht)
  obtain ⟨hv, hitem⟩ := hvalue _ (hu.trans hs) hread
  have hall := (addDotted_keepsKeys .inline hwritten hkey hitem _ _ htable hjoined).allKeys
  have hafter := (skipSpace_suffix v).trans (hv.trans hu)
  split at h
  next w hcomma =>
    have hw : w <:+ s := (List.suffix_cons ',' w).trans (hcomma ▸ hafter)
    obtain ⟨hrest, hall⟩ := hpairs _ _ hall (hw.trans hs) h
    exact ⟨hrest.trans hw, hall⟩
  next w hclose =>
    cases h
    exact ⟨(List.suffix_cons '}' _).trans (hclose ▸ hafter), hall⟩
  next => cases h

theorem readValue_written (n : Nat) : ReadsValues text src n := by
  suffices hall : ReadsValues text src n ∧ ReadsItems text src n ∧ ReadsPairs text src n from hall.1
  induction n with
  | zero =>
      exact ⟨fun _ _ _ _ _ h => (nomatch h), fun _ _ _ _ _ h => (nomatch h),
        fun _ _ _ _ _ _ _ h => (nomatch h)⟩
  | succ n ih =>
      obtain ⟨hvalue, hitems, hpairs⟩ := ih
      exact ⟨readValue_succ_written hitems hpairs, readItems_succ_written hvalue hitems,
        readPairs_succ_written hsize hvalue hpairs⟩

/-! ### Lines -/

variable {d d' : Draft}

theorem readHeader_written (hs : s <:+ text) (hd : d.AllKeys (Key.Written text))
    (h : readHeader src s d = some (d', rest)) :
    rest <:+ s ∧ d'.AllKeys (Key.Written text) := by
  unfold readHeader at h
  split at h
  next after =>
    obtain ⟨⟨path, key, t⟩, hpath, h⟩ := Option.bind_eq_some_iff.mp h
    have hafter := List.drop_suffix 2 ('[' :: '[' :: after)
    obtain ⟨ht, hwritten, hkey⟩ := readPath_written hsize (hafter.trans hs) hpath
    dsimp only at h
    split at h
    next u =>
      obtain ⟨opened, hopened, h⟩ := Option.bind_eq_some_iff.mp h
      obtain ⟨v, hend, h⟩ := Option.bind_eq_some_iff.mp h
      cases h
      have hu := (List.drop_suffix 2 (']' :: ']' :: u)).trans (ht.trans hafter)
      exact ⟨(endLine_suffix hend).trans hu, hd.openListed hwritten hkey hopened⟩
    next => cases h
  next after _ =>
    obtain ⟨⟨path, key, t⟩, hpath, h⟩ := Option.bind_eq_some_iff.mp h
    obtain ⟨u, hclose, h⟩ := Option.bind_eq_some_iff.mp h
    obtain ⟨opened, hopened, h⟩ := Option.bind_eq_some_iff.mp h
    obtain ⟨v, hend, h⟩ := Option.bind_eq_some_iff.mp h
    cases h
    have hafter := List.suffix_cons '[' after
    obtain ⟨ht, hwritten, hkey⟩ := readPath_written hsize (hafter.trans hs) hpath
    have hu := (readChar_suffix hclose).trans (ht.trans hafter)
    exact ⟨(endLine_suffix hend).trans hu, hd.openTable hwritten hkey hopened⟩
  next => cases h

theorem readLine_written (hs : s <:+ text) (hd : d.AllKeys (Key.Written text))
    (h : readLine src s d = some (d', rest)) :
    rest <:+ s ∧ d'.AllKeys (Key.Written text) := by
  obtain ⟨⟨path, key, t⟩, hpath, h⟩ := Option.bind_eq_some_iff.mp h
  obtain ⟨u, hequals, h⟩ := Option.bind_eq_some_iff.mp h
  obtain ⟨⟨item, v⟩, hread, h⟩ := Option.bind_eq_some_iff.mp h
  obtain ⟨w, hend, h⟩ := Option.bind_eq_some_iff.mp h
  obtain ⟨added, hadded, h⟩ := Option.bind_eq_some_iff.mp h
  cases h
  obtain ⟨ht, hwritten, hkey⟩ := readPath_written hsize hs hpath
  have hu : skipSpace u <:+ s :=
    (skipSpace_suffix u).trans ((readChar_suffix hequals).trans ht)
  obtain ⟨hv, hitem⟩ := readValue_written hsize _ 0 (hu.trans hs) hread
  exact ⟨(endLine_suffix hend).trans (hv.trans hu), hd.add hwritten hkey hitem hadded⟩

theorem readLines_written {n : Nat} (hs : s <:+ text) (hd : d.AllKeys (Key.Written text))
    (h : readLines src n s d = some d') : d'.AllKeys (Key.Written text) := by
  induction n generalizing s d with
  | zero => cases h
  | succ n ih =>
      have hline := (skipAll_suffix s).trans hs
      rw [readLines] at h
      split at h
      next =>
        cases h
        exact hd
      next =>
        dsimp only at h
        split_ifs at h
        · obtain ⟨⟨d₁, t⟩, hread, h⟩ := Option.bind_eq_some_iff.mp h
          obtain ⟨ht, hd₁⟩ := readHeader_written hsize hline hd hread
          exact ih (ht.trans hline) hd₁ h
        · obtain ⟨⟨d₁, t⟩, hread, h⟩ := Option.bind_eq_some_iff.mp h
          obtain ⟨ht, hd₁⟩ := readLine_written hsize hline hd hread
          exact ih (ht.trans hline) hd₁ h

end Source

theorem utf8ByteSize_ofList (s : List Char) : (String.ofList s).utf8ByteSize = Text.byteSize s := by
  induction s with
  | nil => rfl
  | cons c s ih =>
      rw [← List.singleton_append, String.ofList_append, String.utf8ByteSize_append, ih]
      simp [Text.byteSize]

/-- A document is a table, and every key in it is written in the text. -/
theorem tableOf_written_of_parse? {content : String} {root : Item}
    (h : parse? content = some root) : root.TableOf (Key.Written content.toList) := by
  obtain ⟨d, hread, hfinish⟩ := Option.bind_eq_some_iff.mp h
  have hmark : withoutMark content.toList <:+ content.toList := by
    unfold withoutMark
    split
    next heq => exact heq ▸ List.suffix_cons _ _
    next => exact List.suffix_rfl
  have hsize : content.utf8ByteSize = Text.byteSize content.toList := by
    rw [← utf8ByteSize_ofList, String.ofList_toList]
  exact (readLines_written hsize hmark Draft.allKeys_start hread).finish hfinish

end Blueprint.Toml
