import Blueprint.Proofs.Disk.Lookup

/-!
# Changes of a disk

What putting and dropping an entry does to every location and to every directory listing. Files
come and go without disturbing a directory, and making the directories of a path only adds to the
disk; where the path leads to a directory already, nothing changes.
-/

namespace Blueprint

/-! ### Keys -/

theorem find?_filter_key {κ β : Type} [BEq κ] [LawfulBEq κ] [DecidableEq κ] {k m : κ}
    (es : List (κ × β)) :
    (es.filter (·.1 != k)).find? (·.1 == m) = if m = k then none else es.find? (·.1 == m) := by
  rw [List.find?_filter]
  split_ifs with h
  · rw [h, List.find?_eq_none]
    simp
  · congr 1
    funext e
    by_cases he : e.1 = m <;> simp [he, h]

namespace Disk

variable {d d' : Disk} {p : Path} {l m : Location} {e : Entry} {s : String} {bytes : List UInt8}

/-! ### One entry -/

theorem ne_nil_of_not_directory (h : d.entry? l ≠ some .directory) : l ≠ [] := by
  rintro rfl
  exact h rfl

theorem entry?_of_ne_nil (hl : l ≠ []) :
    d.entry? l = (d.entries.find? (·.1 == l)).map (·.2) := by
  unfold entry?
  rw [if_neg (by simpa using hl)]

theorem entry?_put (hl : l ≠ []) :
    entry? (d.put l e) m = if m = l then some e else d.entry? m := by
  by_cases hm : m = []
  · rw [hm, if_neg hl.symm]
    rfl
  · rw [entry?_of_ne_nil hm, entry?_of_ne_nil hm, put, List.find?_cons, find?_filter_key]
    by_cases h : m = l
    · simp [h]
    · simp [h, beq_eq_false_iff_ne.mpr (Ne.symm h)]

theorem entry?_drop (hl : l ≠ []) :
    entry? (d.drop l) m = if m = l then none else d.entry? m := by
  by_cases hm : m = []
  · rw [hm, if_neg hl.symm]
    rfl
  · rw [entry?_of_ne_nil hm, entry?_of_ne_nil hm, drop, find?_filter_key]
    by_cases h : m = l <;> simp [h]

theorem keeps_put (h : d.entry? l ≠ some .directory) : d.Keeps (d.put l e) := by
  refine ⟨rfl, fun m hm => ?_⟩
  have hml : m ≠ l := fun hml => h (by rw [← hml, hm])
  rw [entry?_put (ne_nil_of_not_directory h), if_neg hml, hm]

theorem keeps_drop (h : d.entry? l ≠ some .directory) : d.Keeps (d.drop l) := by
  refine ⟨rfl, fun m hm => ?_⟩
  have hml : m ≠ l := fun hml => h (by rw [← hml, hm])
  rw [entry?_drop (ne_nil_of_not_directory h), if_neg hml, hm]

/-! ### Listings -/

theorem childName?_eq_some_iff {parent : Location} :
    childName? parent l = some s ↔ l = parent ++ [s] := by
  rw [childName?]
  constructor
  · intro h
    split_ifs at h with hl
    rw [← beq_iff_eq.mp hl]
    exact (List.dropLast_append_getLast? s h).symm
  · rintro rfl
    simp

theorem filterMap_childName?_filter (parent : Location) (es : List (Location × Entry)) :
    (es.filter (·.1 != parent ++ [s])).filterMap (fun e => childName? parent e.1) =
      (es.filterMap fun e => childName? parent e.1).filter (· != s) := by
  rw [List.filterMap_filter, List.filter_filterMap]
  congr 1
  funext e
  by_cases he : e.1 = parent ++ [s]
  · simp [he, childName?_eq_some_iff.mpr rfl, Option.filter]
  · have hs : childName? parent e.1 ≠ some s := fun hs => he (childName?_eq_some_iff.mp hs)
    cases hn : childName? parent e.1 with
    | none => simp [he]
    | some n =>
        have hns : n ≠ s := fun hns => hs (by rw [hn, hns])
        simp [he, hns, Option.filter]

theorem children_put : (d.put (l ++ [s]) e).children l = s :: (d.children l).filter (· != s) := by
  have hput : (d.put (l ++ [s]) e).entries =
      (l ++ [s], e) :: d.entries.filter (·.1 != l ++ [s]) := rfl
  have hname : childName? l (l ++ [s]) = some s := childName?_eq_some_iff.mpr rfl
  rw [children, hput, List.filterMap_cons, hname, filterMap_childName?_filter]
  rfl

theorem children_drop : (d.drop (l ++ [s])).children l = (d.children l).filter (· != s) :=
  filterMap_childName?_filter l d.entries

theorem mem_children_iff : s ∈ d.children l ↔ d.entry? (l ++ [s]) ≠ none := by
  rw [children, List.mem_filterMap, entry?_of_ne_nil (by simp), ← Option.isSome_iff_ne_none,
    Option.isSome_map, List.find?_isSome]
  simp [childName?_eq_some_iff]

/-! ### Files -/

theorem replace_eq_ok_iff : d.replace p bytes = (.ok (), d') ↔
    ∃ l, d.locate p = .ok l ∧ asksDirectory p = false ∧ d.entry? l ≠ some .directory ∧
      d' = d.put l (.file bytes) := by
  rw [replace]
  cases hl : d.locate p with
  | error e => simp
  | ok l =>
      cases hask : asksDirectory p with
      | true => simp
      | false =>
          cases hentry : d.entry? l with
          | none => simp [hentry, eq_comm]
          | some e => cases e <;> simp [hentry, eq_comm]

/-- A replaced file holds what it was replaced by. -/
theorem stat_replace (h : d.replace p bytes = (.ok (), d')) : d'.stat p = .ok (.file bytes) := by
  obtain ⟨l, hl, hask, hentry, rfl⟩ := replace_eq_ok_iff.mp h
  rw [stat_of_locate ((keeps_put hentry).locate hl), entry?_put (ne_nil_of_not_directory hentry),
    if_pos rfl, hask]
  rfl

theorem readText_of_stat {text : String} (h : d.stat p = .ok (.file text.toUTF8.toList)) :
    d.readText p = .ok text := by
  have hbytes : d.readBytes p = .ok text.toUTF8.toList := by
    rw [readBytes, h]
    rfl
  rw [readText, hbytes, ok_bind, decodeUtf8_toUTF8]

theorem present_of_stat (h : d.stat p = .ok e) : d.present p := by
  rw [present, h]

theorem exists_stat_of_present (h : d.present p) : ∃ e, d.stat p = .ok e := by
  rw [present] at h
  split at h
  · exact ⟨_, ‹_›⟩
  · cases h

/-! ### Directories -/

/-- What is on a disk is on the other one too. -/
structure Extends (d d' : Disk) : Prop where
  cwd : d'.cwd = d.cwd
  entry : ∀ l e, d.entry? l = some e → d'.entry? l = some e

theorem Extends.refl (d : Disk) : d.Extends d := ⟨rfl, fun _ _ h => h⟩

theorem Extends.trans {d'' : Disk} (h : d.Extends d') (h' : d'.Extends d'') : d.Extends d'' :=
  ⟨h'.cwd.trans h.cwd, fun l e hl => h'.entry l e (h.entry l e hl)⟩

theorem Extends.keeps (h : d.Extends d') : d.Keeps d' := ⟨h.cwd, fun l => h.entry l .directory⟩

theorem Extends.stat (h : d.Extends d') (hp : d.stat p = .ok e) : d'.stat p = .ok e := by
  obtain ⟨l, hl, _⟩ := bind_eq_ok_iff.mp hp
  rw [stat_of_locate hl] at hp
  rw [stat_of_locate (h.keeps.locate hl)]
  cases hentry : d.entry? l with
  | none => simp [hentry] at hp
  | some e =>
      rw [hentry] at hp
      rw [h.entry l e hentry]
      exact hp

theorem Extends.present (h : d.Extends d') (hp : d.present p) : d'.present p := by
  obtain ⟨e, he⟩ := exists_stat_of_present hp
  exact present_of_stat (h.stat he)

theorem Extends.children_subset (h : d.Extends d') : d.children l ⊆ d'.children l := by
  intro s hs
  rw [mem_children_iff, Option.ne_none_iff_exists'] at hs ⊢
  obtain ⟨e, he⟩ := hs
  exact ⟨e, h.entry _ _ he⟩

theorem extends_put (h : d.entry? l = none) : d.Extends (d.put l e) := by
  have hl : l ≠ [] := ne_nil_of_not_directory (d := d) (by simp [h])
  refine ⟨rfl, fun m a hm => ?_⟩
  have hml : m ≠ l := by
    rintro rfl
    simp [h] at hm
  rw [entry?_put hl, if_neg hml, hm]

theorem makeDirectory_extends (d : Disk) (p : Path) : d.Extends (d.makeDirectory p).2 := by
  rw [makeDirectory]
  split
  · exact Extends.refl d
  · split
    · exact Extends.refl d
    · exact extends_put ‹_›

/-- A directory that cannot be made is settled when it is there. -/
def settle (p : Path) : Except SystemFault Unit × Disk → Except SystemFault Unit × Disk
  | (.ok (), d) => (.ok (), d)
  | (.error e, d) => if d.isDirectory p then (.ok (), d) else (.error e, d)

theorem makeDirectoriesUp_cons (d : Disk) (c : Component) (up : List Component) :
    d.makeDirectoriesUp (c :: up) =
      match d.makeDirectory (Path.ofComponents (c :: up).reverse) with
      | (.error .notFound, d) =>
        match d.makeDirectoriesUp up with
        | (.ok (), d) =>
          settle (Path.ofComponents (c :: up).reverse)
            (d.makeDirectory (Path.ofComponents (c :: up).reverse))
        | failed => failed
      | r => settle (Path.ofComponents (c :: up).reverse) r := rfl

theorem settle_snd (p : Path) (r : Except SystemFault Unit × Disk) : (settle p r).2 = r.2 := by
  obtain ⟨r, d⟩ := r
  cases r with
  | ok _ => rfl
  | error e =>
      rw [settle]
      split_ifs <;> rfl

/-- What holds of each directory that is made holds of the whole way. -/
theorem makeDirectoriesUp_of_makeDirectory {R : Disk → Disk → Prop} (hrefl : ∀ d, R d d)
    (htrans : ∀ d d' d'', R d d' → R d' d'' → R d d'') (hmake : ∀ d p, R d (d.makeDirectory p).2)
    (d : Disk) (cs : List Component) : R d (d.makeDirectoriesUp cs).2 := by
  -- Each step goes on from the disk of the one before it, along the way up and back.
  induction cs generalizing d with
  | nil => exact hrefl d
  | cons c up ih =>
      have hhead := hmake d (Path.ofComponents (c :: up).reverse)
      rw [makeDirectoriesUp_cons]
      split
      · rename_i d₁ hd₁
        rw [hd₁] at hhead
        have hup := htrans _ _ _ hhead (ih d₁)
        split
        · rename_i d₂ hd₂
          rw [hd₂] at hup
          rw [settle_snd]
          exact htrans _ _ _ hup (hmake d₂ _)
        · exact hup
      · rw [settle_snd]
        exact hhead

theorem makeDirectoriesUp_extends (d : Disk) (cs : List Component) :
    d.Extends (d.makeDirectoriesUp cs).2 :=
  makeDirectoriesUp_of_makeDirectory Extends.refl (fun _ _ _ => Extends.trans)
    makeDirectory_extends d cs

theorem isDirectory_of_settle {r : Except SystemFault Unit × Disk}
    (hr : ∀ d', r = (.ok (), d') → d'.isDirectory p) (h : settle p r = (.ok (), d')) :
    d'.isDirectory p := by
  obtain ⟨r, d''⟩ := r
  cases r with
  | ok _ => exact hr d' h
  | error e =>
      rw [settle] at h
      split_ifs at h with hd
      · cases h
        exact hd
      · cases h

theorem isDirectory_of_makeDirectory (h : d.makeDirectory p = (.ok (), d')) :
    d'.isDirectory p := by
  rw [makeDirectory] at h
  split at h
  · cases h
  · rename_i l hl
    split at h
    · cases h
    · rename_i hentry
      cases h
      have hne : d.entry? l ≠ some .directory := by simp [hentry]
      refine isDirectory_iff.mpr ⟨l, (keeps_put hne).locate hl, ?_⟩
      rw [entry?_put (ne_nil_of_not_directory hne), if_pos rfl]

theorem isDirectory_of_makeDirectoriesUp {cs : List Component} (hcs : cs ≠ [])
    (h : d.makeDirectoriesUp cs = (.ok (), d')) :
    d'.isDirectory (Path.ofComponents cs.reverse) := by
  obtain ⟨c, up, rfl⟩ := List.exists_cons_of_ne_nil hcs
  rw [makeDirectoriesUp_cons] at h
  split at h
  · split at h
    · exact isDirectory_of_settle (fun d' => isDirectory_of_makeDirectory) h
    · rename_i hfailed
      exact (hfailed _ h).elim
  · exact isDirectory_of_settle (fun d' => isDirectory_of_makeDirectory) h

/-- Nothing is made where a directory is there. -/
theorem Opens.makeDirectories (h : d.Opens p l) : d.makeDirectories p = (.ok (), d) := by
  have hp := h.ofComponents
  have hmake : d.makeDirectory (Path.ofComponents p.components) = (.error .alreadyThere, d) := by
    rw [makeDirectory, hp.located]
    simp [h.directory]
  obtain ⟨c, up, hcs⟩ : ∃ c up, p.components.reverse = c :: up :=
    List.exists_cons_of_ne_nil
      (by simpa using Path.components_ne_nil (takes_of_locate h.located).1)
  have hrev : (c :: up).reverse = p.components := by rw [← hcs, List.reverse_reverse]
  rw [Disk.makeDirectories, hcs, makeDirectoriesUp_cons, hrev, hmake]
  simp [settle, isDirectory_iff.mpr ⟨l, hp⟩]

/-- A path leads to a directory once its directories are made. -/
theorem opens_of_makeDirectories (hp : Takes p) (h : d.makeDirectories p = (.ok (), d')) :
    ∃ l, d'.Opens p l := by
  have hcs : p.components.reverse ≠ [] := by simpa using Path.components_ne_nil hp.1
  have hdir := isDirectory_of_makeDirectoriesUp hcs h
  rw [List.reverse_reverse, isDirectory_iff] at hdir
  obtain ⟨l, hl⟩ := hdir
  exact ⟨l, Opens.of_ofComponents hp hl⟩

/-! ### Writing below a directory -/

/-- A file in a directory is written into that directory. -/
theorem Opens.home_push (h : d.Opens p l) (hs : IsName s) : d.Opens (home (p.push s)) l := by
  have hparent : (p.push s).parent = Path.ofComponents p.components := by
    rw [Path.parent, Path.components_push p hs, List.dropLast_concat]
  have hne : (Path.ofComponents p.components).text ≠ "" :=
    (takes_of_locate h.ofComponents.located).1
  rw [home, hparent, if_neg (by simpa using hne)]
  exact h.ofComponents

theorem writeText_eq_ok_iff {text : String} : d.writeText p text = (.ok (), d') ↔
    ∃ d₁, d.makeDirectories (home p) = (.ok (), d₁) ∧
      d₁.replace p text.toUTF8.toList = (.ok (), d') := by
  change d.writeBytes p text.toUTF8.toList = _ ↔ _
  -- The equations of `writeBytes` would be found by computing with the path.
  delta writeBytes
  obtain ⟨r, d₁⟩ := d.makeDirectories (home p)
  cases r with
  | error e => simp
  | ok _ =>
      simp only [Prod.mk.injEq, true_and, exists_eq_left']
      obtain ⟨r, d₂⟩ := d₁.replace p text.toUTF8.toList
      cases r <;> simp

theorem Opens.writeText_push (h : d.Opens p l) (hs : IsName s)
    (hloc : d.locate (p.push s) = .ok (l ++ [s])) (hentry : d.entry? (l ++ [s]) ≠ some .directory)
    (text : String) :
    d.writeText (p.push s) text = (.ok (), d.put (l ++ [s]) (.file text.toUTF8.toList)) :=
  writeText_eq_ok_iff.mpr ⟨d, (h.home_push hs).makeDirectories,
    replace_eq_ok_iff.mpr ⟨_, hloc, asksDirectory_push p hs, hentry, rfl⟩⟩

/-- Whatever was written stands in the file. -/
theorem stat_writeText {text : String} (h : d.writeText p text = (.ok (), d')) :
    d'.stat p = .ok (.file text.toUTF8.toList) := by
  obtain ⟨_, _, hreplace⟩ := writeText_eq_ok_iff.mp h
  exact stat_replace hreplace

theorem drop_of_none (h : d.entry? l = none) : d.drop l = d := by
  have hl : l ≠ [] := ne_nil_of_not_directory (d := d) (by simp [h])
  rw [entry?_of_ne_nil hl, Option.map_eq_none_iff, List.find?_eq_none] at h
  rw [drop, List.filter_eq_self.mpr]
  intro e he
  simpa using h e he

theorem removeFile_push (hs : IsName s) (hloc : d.locate (p.push s) = .ok l)
    (hentry : d.entry? l = some (.file bytes)) : d.removeFile (p.push s) = (.ok (), d.drop l) := by
  rw [removeFile, stat_push hs hloc, hentry]
  simp [hloc]

theorem removeFile_push_of_none (hs : IsName s) (hloc : d.locate (p.push s) = .ok l)
    (hentry : d.entry? l = none) : d.removeFile (p.push s) = (.error .notFound, d.drop l) := by
  rw [removeFile, stat_push hs hloc, hentry]
  simp [drop_of_none hentry]

end Disk

end Blueprint
