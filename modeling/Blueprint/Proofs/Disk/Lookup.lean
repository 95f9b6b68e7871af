import Blueprint.Proofs.Disk.Spelling
import Blueprint.Proofs.Except

/-!
# Looking paths up

A path is looked up when the operating system takes its text and every step of it leads through a
directory. What is found depends on the directories on the way only, so a disk that keeps them
finds every path at its old location.
-/

namespace Blueprint

/-! ### Texts in files -/

theorem toList_loop (bytes : ByteArray) (i : Nat) (front : List UInt8) :
    ByteArray.toList.loop bytes i front = front.reverse ++ bytes.data.toList.drop i := by
  fun_induction ByteArray.toList.loop bytes i front with
  | case1 i front h ih =>
      have hi : i < bytes.data.toList.length := by simpa using h
      have hget : bytes.get! i = bytes.data[i] := getElem!_pos bytes.data i h
      rw [ih, List.drop_eq_getElem_cons hi, hget]
      simp
  | case2 i front h =>
      have hi : bytes.data.toList.length ≤ i := by simpa using h
      rw [List.drop_eq_nil_of_le hi, List.append_nil]

theorem decodeUtf8_toUTF8 (text : String) : decodeUtf8 text.toUTF8.toList = some text := by
  have hbytes : (⟨text.toUTF8.toList.toArray⟩ : ByteArray) = text.toByteArray := by
    rw [ByteArray.toList, toList_loop]
    simp
  rw [decodeUtf8, hbytes, String.fromUTF8?, dif_pos text.isValidUTF8]
  rfl

namespace Disk

/-- The operating system takes the text of a path. -/
def Takes (p : Path) : Prop :=
  p.text ≠ "" ∧ '\x00' ∉ p.text.toList ∧ p.text.utf8ByteSize < pathLimit

instance (p : Path) : Decidable (Takes p) := inferInstanceAs (Decidable (_ ∧ _ ∧ _))

variable {d d' : Disk} {p : Path} {l : Location} {s : String}

/-! ### Steps -/

theorem needDirectory_eq_ok_iff : d.needDirectory l = .ok () ↔ d.entry? l = some .directory := by
  rw [needDirectory]
  split <;> simp_all

theorem walk_name_eq_ok_iff {rest : List Component} {l' : Location} :
    d.walk l (.name s :: rest) = .ok l' ↔ d.entry? l = some .directory ∧
      s.utf8ByteSize ≤ nameLimit ∧ d.walk (l ++ [s]) rest = .ok l' := by
  rw [walk, bind_eq_ok_iff, ← needDirectory_eq_ok_iff, ← Nat.not_lt]
  by_cases hs : nameLimit < s.utf8ByteSize
  · simp [hs]
  · simp only [hs, if_false, not_false_eq_true, true_and]
    exact ⟨fun ⟨_, hl, hrest⟩ => ⟨hl, hrest⟩, fun ⟨hl, hrest⟩ => ⟨_, hl, hrest⟩⟩

theorem walk_append (as bs : List Component) :
    d.walk l (as ++ bs) = (d.walk l as >>= fun l' => d.walk l' bs) := by
  induction as generalizing l with
  | nil => rfl
  | cons c as ih =>
      cases c with
      | root => exact ih
      | current => cases h : d.needDirectory l <;> simp [walk, h, ih]
      | parent => cases h : d.needDirectory l <;> simp [walk, h, ih]
      | name t =>
          cases h : d.needDirectory l with
          | error e => simp [walk, h]
          | ok _ => by_cases ht : nameLimit < t.utf8ByteSize <;> simp [walk, h, ih, ht]

theorem locate_of_takes (h : Takes p) : d.locate p = d.walk d.cwd p.components := by
  obtain ⟨hempty, hnul, hsize⟩ := h
  rw [locate, if_neg (by simpa using hempty), if_neg (by simpa using hnul),
    if_neg (Nat.not_le.mpr hsize)]

theorem takes_of_locate (h : d.locate p = .ok l) : Takes p := by
  rw [locate] at h
  split_ifs at h with hempty hnul hsize
  exact ⟨by simpa using hempty, by simpa using hnul, Nat.not_le.mp hsize⟩

theorem locate_eq_ok_iff :
    d.locate p = .ok l ↔ Takes p ∧ d.walk d.cwd p.components = .ok l := by
  constructor
  · intro h
    have htakes := takes_of_locate h
    exact ⟨htakes, (locate_of_takes htakes).symm.trans h⟩
  · rintro ⟨htakes, h⟩
    exact (locate_of_takes htakes).trans h

theorem takes_ofComponents (h : Takes p) : Takes (Path.ofComponents p.components) := by
  have hsub := Path.ofComponents_sublist p
  refine ⟨?_, fun hnul => h.2.1 (hsub.subset hnul),
    Nat.lt_of_le_of_lt (utf8ByteSize_le_of_sublist hsub) h.2.2⟩
  intro hempty
  have hcs := Path.components_ofComponents p
  rw [show Path.ofComponents p.components = ⟨""⟩ from Path.mk.injEq .. ▸ hempty] at hcs
  exact Path.components_ne_nil h.1 hcs.symm

/-- Where a path into a directory is taken, that of the directory is. -/
theorem takes_of_takes_push (hs : IsName s) (h : Takes (p.push s)) (hp : p.text ≠ "") :
    Takes p := by
  obtain ⟨sep, hsep⟩ := p.toList_push hs
  have hsub : p.text.toList.Sublist (p.push s).text.toList := by
    rw [hsep, List.append_assoc]
    exact List.sublist_append_left _ _
  exact ⟨hp, fun hnul => h.2.1 (hsub.subset hnul),
    Nat.lt_of_le_of_lt (utf8ByteSize_le_of_sublist hsub) h.2.2⟩

/-- A path and its plainest spelling lead to one location. -/
theorem locate_ofComponents (h : Takes p) :
    d.locate (Path.ofComponents p.components) = d.locate p := by
  rw [locate_of_takes h, locate_of_takes (takes_ofComponents h), Path.components_ofComponents]

/-! ### Disks that keep their directories -/

/-- Another disk has the directories of this one. -/
structure Keeps (d d' : Disk) : Prop where
  cwd : d'.cwd = d.cwd
  directory : ∀ l, d.entry? l = some .directory → d'.entry? l = some .directory

theorem Keeps.refl (d : Disk) : d.Keeps d := ⟨rfl, fun _ h => h⟩

theorem Keeps.trans {d'' : Disk} (h : d.Keeps d') (h' : d'.Keeps d'') : d.Keeps d'' :=
  ⟨h'.cwd.trans h.cwd, fun l hl => h'.directory l (h.directory l hl)⟩

section Keeps

variable (h : d.Keeps d')
include h

theorem Keeps.needDirectory (hl : d.needDirectory l = .ok ()) : d'.needDirectory l = .ok () :=
  needDirectory_eq_ok_iff.mpr (h.directory l (needDirectory_eq_ok_iff.mp hl))

theorem Keeps.walk {cs : List Component} {l' : Location} (hwalk : d.walk l cs = .ok l') :
    d'.walk l cs = .ok l' := by
  induction cs generalizing l with
  | nil => exact hwalk
  | cons c cs ih =>
      cases c with
      | root => exact ih hwalk
      | current =>
          obtain ⟨_, hl, hrest⟩ := bind_eq_ok_iff.mp hwalk
          exact bind_eq_ok_iff.mpr ⟨_, h.needDirectory hl, ih hrest⟩
      | parent =>
          obtain ⟨_, hl, hrest⟩ := bind_eq_ok_iff.mp hwalk
          exact bind_eq_ok_iff.mpr ⟨_, h.needDirectory hl, ih hrest⟩
      | name t =>
          obtain ⟨hl, ht, hrest⟩ := walk_name_eq_ok_iff.mp hwalk
          exact walk_name_eq_ok_iff.mpr ⟨h.directory l hl, ht, ih hrest⟩

theorem Keeps.locate (hp : d.locate p = .ok l) : d'.locate p = .ok l := by
  obtain ⟨htakes, hwalk⟩ := locate_eq_ok_iff.mp hp
  rw [locate_of_takes htakes, h.cwd]
  exact h.walk hwalk

end Keeps

/-! ### Open directories -/

/-- A path leads to a directory at a location. -/
structure Opens (d : Disk) (p : Path) (l : Location) : Prop where
  located : d.locate p = .ok l
  directory : d.entry? l = some .directory

theorem Opens.of_keeps (hp : d.Opens p l) (h : d.Keeps d') : d'.Opens p l :=
  ⟨h.locate hp.located, h.directory l hp.directory⟩

theorem stat_of_locate (h : d.locate p = .ok l) : d.stat p =
    match d.entry? l with
    | none => .error .notFound
    | some .directory => .ok .directory
    | some (.file bytes) =>
      if asksDirectory p then .error .notDirectory else .ok (.file bytes) := by
  rw [stat, h]
  rfl

theorem stat_eq_directory_iff : d.stat p = .ok .directory ↔ ∃ l, d.Opens p l := by
  constructor
  · intro h
    obtain ⟨l, hl, _⟩ := bind_eq_ok_iff.mp h
    rw [stat_of_locate hl] at h
    refine ⟨l, hl, ?_⟩
    split at h
    · cases h
    · assumption
    · split_ifs at h
      cases h
  · rintro ⟨l, hl⟩
    rw [stat_of_locate hl.located, hl.directory]

theorem isDirectory_iff : d.isDirectory p ↔ ∃ l, d.Opens p l := by
  rw [← stat_eq_directory_iff, isDirectory]
  split <;> simp_all

theorem Opens.of_ofComponents (hp : Takes p) (h : d.Opens (Path.ofComponents p.components) l) :
    d.Opens p l := ⟨(locate_ofComponents hp).symm.trans h.located, h.directory⟩

theorem Opens.ofComponents (h : d.Opens p l) : d.Opens (Path.ofComponents p.components) l :=
  ⟨(locate_ofComponents (takes_of_locate h.located)).trans h.located, h.directory⟩

/-- A path that ends with a name does not ask for a directory. -/
theorem asksDirectory_push (p : Path) (hs : IsName s) : asksDirectory (p.push s) = false := by
  obtain ⟨u, hu⟩ := Path.toList_push p hs
  obtain ⟨c, rest, hrev⟩ : ∃ c rest, s.toList.reverse = c :: rest :=
    List.exists_cons_of_ne_nil (by simpa using hs.2.1)
  have hslash : '/' ∉ c :: rest := by
    rw [← hrev, List.mem_reverse]
    exact hs.1
  have hdot : c :: rest ≠ ['.'] := by
    rw [← hrev]
    intro h
    exact hs.2.2.1 (String.toList_inj.mp (by simpa using congrArg List.reverse h))
  -- From the end of the path the name comes first, whatever stands in front of it.
  rw [asksDirectory, hu, List.reverse_append, hrev, List.cons_append]
  split
  · simp_all
  · rename_i h
    obtain ⟨rfl, htail⟩ := List.cons.inj h
    cases rest with
    | nil => exact absurd rfl hdot
    | cons c' rest =>
        obtain rfl : c' = '/' := (List.cons.inj htail).1
        simp at hslash
  · rfl

section Open

variable (hp : d.Opens p l) (hs : IsName s)
include hp hs

theorem Opens.walk_push {l' : Location} : d.walk d.cwd (p.push s).components = .ok l' ↔
    s.utf8ByteSize ≤ nameLimit ∧ l' = l ++ [s] := by
  have hwalk : d.walk d.cwd p.components = .ok l := (locate_eq_ok_iff.mp hp.located).2
  rw [Path.components_push p hs, walk_append, hwalk, ok_bind, walk_name_eq_ok_iff]
  simp [hp.directory, walk, eq_comm]

theorem Opens.locate_push_iff {l' : Location} : d.locate (p.push s) = .ok l' ↔
    Takes (p.push s) ∧ s.utf8ByteSize ≤ nameLimit ∧ l' = l ++ [s] := by
  rw [locate_eq_ok_iff, hp.walk_push hs]

end Open

/-- A name is looked up alike in a directory of two disks. -/
theorem Opens.locate_push_congr (hp : d.Opens p l) (hp' : d'.Opens p l) (hs : IsName s) :
    d'.locate (p.push s) = d.locate (p.push s) := by
  have hneed : d'.needDirectory l = d.needDirectory l := by
    rw [needDirectory_eq_ok_iff.mpr hp.directory, needDirectory_eq_ok_iff.mpr hp'.directory]
  have hwalk : d.walk d.cwd p.components = .ok l := (locate_eq_ok_iff.mp hp.located).2
  have hwalk' : d'.walk d'.cwd p.components = .ok l := (locate_eq_ok_iff.mp hp'.located).2
  rw [locate, locate, Path.components_push p hs, walk_append, walk_append, hwalk, hwalk', ok_bind,
    ok_bind, walk, walk, hneed]
  rfl

theorem Opens.stat_push_congr (hp : d.Opens p l) (hp' : d'.Opens p l) (hs : IsName s)
    (hentry : d'.entry? (l ++ [s]) = d.entry? (l ++ [s])) :
    d'.stat (p.push s) = d.stat (p.push s) := by
  have hloc := hp.locate_push_congr hp' hs
  cases hd : d.locate (p.push s) with
  | error e => rw [stat, stat, hloc, hd, error_bind, error_bind]
  | ok l' =>
      obtain ⟨-, -, rfl⟩ := (hp.locate_push_iff hs).mp hd
      rw [stat_of_locate (hloc.trans hd), stat_of_locate hd, hentry]

theorem stat_push (hs : IsName s) (h : d.locate (p.push s) = .ok l) : d.stat (p.push s) =
    match d.entry? l with
    | none => .error .notFound
    | some e => .ok e := by
  rw [stat_of_locate h, asksDirectory_push p hs]
  cases d.entry? l with
  | none => rfl
  | some e => cases e <;> rfl

end Disk

end Blueprint
