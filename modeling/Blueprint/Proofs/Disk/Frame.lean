import Blueprint.Proofs.Disk.Change

/-!
# What operations leave alone

`SameFiles` compares the files of two disks location by location; directories may come, and none
goes. Writing and removing a file are atomic: when they succeed they change the file at their path,
and when they fail they change no file at all.
-/

namespace Blueprint.Disk

variable {d d' : Disk} {p : Path} {l : Location} {s : String} {P Q : Location → Prop}

/-- The same files stand on two disks, but for some locations, and no directory is lost. -/
structure SameFiles (P : Location → Prop) (d d' : Disk) : Prop where
  keeps : d.Keeps d'
  file : ∀ l, ¬ P l → ∀ bytes, d'.entry? l = some (.file bytes) ↔ d.entry? l = some (.file bytes)

theorem SameFiles.refl (P : Location → Prop) (d : Disk) : d.SameFiles P d :=
  ⟨.refl d, fun _ _ _ => .rfl⟩

theorem SameFiles.trans {d'' : Disk} (h : d.SameFiles P d') (h' : d'.SameFiles P d'') :
    d.SameFiles P d'' :=
  ⟨h.keeps.trans h'.keeps, fun l hl bytes => (h'.file l hl bytes).trans (h.file l hl bytes)⟩

theorem SameFiles.mono (h : d.SameFiles P d') (hPQ : ∀ l, P l → Q l) : d.SameFiles Q d' :=
  ⟨h.keeps, fun l hl bytes => h.file l (fun hP => hl (hPQ l hP)) bytes⟩

/-! ### Single entries -/

theorem sameFiles_put_directory (h : d.entry? l = none) :
    d.SameFiles (fun _ => False) (d.put l .directory) := by
  have hl : d.entry? l ≠ some .directory := by simp [h]
  refine ⟨keeps_put hl, fun m _ bytes => ?_⟩
  rw [entry?_put (ne_nil_of_not_directory hl)]
  split_ifs with hm
  · simp [hm, h]
  · rfl

theorem sameFiles_put_file (h : d.entry? l ≠ some .directory) (bytes : List UInt8) :
    d.SameFiles (· = l) (d.put l (.file bytes)) := by
  refine ⟨keeps_put h, fun m hm bytes => ?_⟩
  rw [entry?_put (ne_nil_of_not_directory h), if_neg hm]

theorem sameFiles_drop (h : d.entry? l ≠ some .directory) : d.SameFiles (· = l) (d.drop l) := by
  refine ⟨keeps_drop h, fun m hm bytes => ?_⟩
  rw [entry?_drop (ne_nil_of_not_directory h), if_neg hm]

theorem sameFiles_makeDirectory (d : Disk) (p : Path) :
    d.SameFiles (fun _ => False) (d.makeDirectory p).2 := by
  rw [makeDirectory]
  split
  · exact .refl _ d
  · split
    · exact .refl _ d
    · exact sameFiles_put_directory ‹_›

theorem sameFiles_makeDirectories (d : Disk) (p : Path) :
    d.SameFiles (fun _ => False) (d.makeDirectories p).2 :=
  makeDirectoriesUp_of_makeDirectory (SameFiles.refl _) (fun _ _ _ => SameFiles.trans)
    sameFiles_makeDirectory d p.components.reverse

/-! ### Atomic operations -/

section Atomic

variable {ε ε' : Type} {r : Except ε Unit × Disk}

/-- An operation that succeeds changes no other file than the one at a path, and an operation that
fails changes no file. -/
def Atomic (p : Path) (d : Disk) (r : Except ε Unit × Disk) : Prop :=
  d.SameFiles (fun l => r.1 = .ok () ∧ r.2.locate p = .ok l) r.2

theorem atomic_error (p : Path) (d : Disk) (e : ε) : Atomic p d (.error e, d) := .refl _ d

theorem Atomic.of_sameFiles (h : d.SameFiles (fun _ => False) r.2) : Atomic p d r :=
  h.mono fun _ => False.elim

/-- Directories may be made before an atomic operation. -/
theorem Atomic.after (h : Atomic p d' r) (hd : d.SameFiles (fun _ => False) d') : Atomic p d r :=
  (hd.mono fun _ => False.elim).trans h

/-- Only whether an operation succeeded counts. -/
theorem Atomic.congr {r' : Except ε' Unit × Disk} (h : Atomic p d r) (hdisk : r'.2 = r.2)
    (hok : r.1 = .ok () → r'.1 = .ok ()) : Atomic p d r' := by
  rw [Atomic, hdisk]
  exact h.mono fun l ⟨hr, hl⟩ => ⟨hok hr, hl⟩

theorem Atomic.mapError (h : Atomic p d r) (f : ε → ε') : Atomic p d (r.1.mapError f, r.2) :=
  h.congr rfl fun hr => by rw [hr]; rfl

theorem atomic_put (hl : d.locate p = .ok l) (h : d.entry? l ≠ some .directory)
    (bytes : List UInt8) :
    Atomic p d ((.ok () : Except ε Unit), d.put l (.file bytes)) := by
  refine (sameFiles_put_file h bytes).mono ?_
  rintro m rfl
  exact ⟨rfl, (keeps_put h).locate hl⟩

theorem atomic_drop (hl : d.locate p = .ok l) (h : d.entry? l ≠ some .directory) :
    Atomic p d ((.ok () : Except ε Unit), d.drop l) := by
  refine (sameFiles_drop h).mono ?_
  rintro m rfl
  exact ⟨rfl, (keeps_drop h).locate hl⟩

end Atomic

theorem atomic_replace (d : Disk) (p : Path) (bytes : List UInt8) :
    Atomic p d (d.replace p bytes) := by
  rw [replace]
  split
  · exact atomic_error p d _
  · rename_i l hl
    split_ifs
    · exact atomic_error p d _
    · split
      · exact atomic_error p d _
      · rename_i hentry
        exact atomic_put hl (fun h => hentry h) bytes

theorem atomic_writeText (d : Disk) (p : Path) (text : String) :
    Atomic p d (d.writeText p text) := by
  have hmade := sameFiles_makeDirectories d (home p)
  change Atomic p d (d.writeBytes p text.toUTF8.toList)
  delta writeBytes
  generalize d.makeDirectories (home p) = made at hmade ⊢
  obtain ⟨made, d₁⟩ := made
  cases made with
  | error e => exact .of_sameFiles hmade
  | ok _ =>
      have hreplace := (atomic_replace d₁ p text.toUTF8.toList).after hmade
      simp only
      generalize d₁.replace p text.toUTF8.toList = replaced at hreplace ⊢
      obtain ⟨replaced, d₂⟩ := replaced
      cases replaced with
      | error e => exact hreplace.congr rfl fun h => by cases h
      | ok _ => exact hreplace.congr rfl fun _ => rfl

theorem atomic_removeFile (d : Disk) (p : Path) : Atomic p d (d.removeFile p) := by
  rw [removeFile]
  split
  · exact atomic_error p d _
  · exact atomic_error p d _
  · rename_i bytes hstat
    split
    · exact atomic_error p d _
    · rename_i l hl
      refine atomic_drop hl fun hentry => ?_
      rw [stat_of_locate hl, hentry] at hstat
      cases hstat

/-! ### Looking through a path -/

theorem SameFiles.entry {e : Entry} (h : d.SameFiles P d') (hl : ¬ P l)
    (he : d.entry? l = some e) : d'.entry? l = some e := by
  cases e with
  | directory => exact h.keeps.directory l he
  | file bytes => exact (h.file l hl bytes).mpr he

/-- What stands at a path is found as before, unless the path leads to a changed location. -/
theorem SameFiles.stat {e : Entry} (h : d.SameFiles P d') (hp : d.stat p = .ok e)
    (hsafe : ∀ l, d'.locate p = .ok l → ¬ P l) : d'.stat p = .ok e := by
  obtain ⟨l, hl, _⟩ := bind_eq_ok_iff.mp hp
  have hl' := h.keeps.locate hl
  rw [stat_of_locate hl] at hp
  rw [stat_of_locate hl']
  cases hentry : d.entry? l with
  | none => simp [hentry] at hp
  | some e => rwa [h.entry (hsafe l hl') hentry, ← hentry]

/-- A path that ends with a name leads right below what the rest of it leads to. -/
theorem exists_walk_of_locate_push (hs : IsName s) (h : d.locate (p.push s) = .ok l) :
    ∃ above, d.walk d.cwd p.components = .ok above ∧ l = above ++ [s] := by
  have hwalk := (locate_eq_ok_iff.mp h).2
  rw [Path.components_push p hs, walk_append] at hwalk
  obtain ⟨above, habove, hlast⟩ := bind_eq_ok_iff.mp hwalk
  obtain ⟨-, -, hnil⟩ := walk_name_eq_ok_iff.mp hlast
  exact ⟨above, habove, (Except.ok.inj hnil).symm⟩

theorem getLast?_of_locate_push (hs : IsName s) (h : d.locate (p.push s) = .ok l) :
    l.getLast? = some s := by
  obtain ⟨above, -, rfl⟩ := exists_walk_of_locate_push hs h
  exact List.getLast?_concat

end Blueprint.Disk
