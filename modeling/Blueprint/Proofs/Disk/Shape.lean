import Blueprint.Proofs.Disk.Change

/-!
# What operations do not read

Two disks have one shape when the same files and directories are on them, whatever the files hold.
A blind operation ends alike on disks of one shape and leaves disks of one shape, so it has read no
file. Paths are looked up by the shape alone, and writing and removing a file are blind.
-/

namespace Blueprint.Disk

variable {d d' : Disk} {p : Path} {l : Location} {e e' : Entry}

/-- The same files and directories are on two disks. -/
structure SameShape (d d' : Disk) : Prop where
  cwd : d'.cwd = d.cwd
  absent : ∀ l, d'.entry? l = none ↔ d.entry? l = none
  directory : ∀ l, d'.entry? l = some .directory ↔ d.entry? l = some .directory

namespace SameShape

section Looking

variable (h : d.SameShape d')
include h

/-- At each location the disks have nothing, a directory or a file. The root is a directory. -/
theorem cases_entry? (l : Location) :
    (l ≠ [] ∧ d.entry? l = none ∧ d'.entry? l = none) ∨
      (d.entry? l = some .directory ∧ d'.entry? l = some .directory) ∨
      ∃ bytes bytes', l ≠ [] ∧ d.entry? l = some (.file bytes) ∧
        d'.entry? l = some (.file bytes') := by
  cases hd : d.entry? l with
  | none =>
      have hne : l ≠ [] := ne_nil_of_not_directory (d := d) (by simp [hd])
      exact .inl ⟨hne, rfl, (h.absent l).mpr hd⟩
  | some e =>
      cases e with
      | directory => exact .inr (.inl ⟨rfl, (h.directory l).mpr hd⟩)
      | file bytes =>
          have hne : l ≠ [] := ne_nil_of_not_directory (d := d) (by simp [hd])
          cases hd' : d'.entry? l with
          | none => simp [(h.absent l).mp hd'] at hd
          | some e' =>
              cases e' with
              | directory => simp [(h.directory l).mp hd'] at hd
              | file bytes' => exact .inr (.inr ⟨bytes, bytes', hne, rfl, rfl⟩)

theorem needDirectory (l : Location) : d'.needDirectory l = d.needDirectory l := by
  obtain ⟨-, hd, hd'⟩ | ⟨hd, hd'⟩ | ⟨_, _, -, hd, hd'⟩ := h.cases_entry? l <;>
    rw [Disk.needDirectory, Disk.needDirectory, hd, hd']

theorem walk (l : Location) (cs : List Component) : d'.walk l cs = d.walk l cs := by
  induction cs generalizing l with
  | nil => rfl
  | cons c cs ih => cases c <;> simp only [Disk.walk, h.needDirectory, ih]

theorem locate (p : Path) : d'.locate p = d.locate p := by
  simp only [Disk.locate, h.cwd, h.walk]

theorem isDirectory (p : Path) : d'.isDirectory p = d.isDirectory p := by
  rw [Bool.eq_iff_iff, isDirectory_iff, isDirectory_iff]
  constructor
  · rintro ⟨l, hl⟩
    exact ⟨l, (h.locate p).symm.trans hl.located, (h.directory l).mp hl.directory⟩
  · rintro ⟨l, hl⟩
    exact ⟨l, (h.locate p).trans hl.located, (h.directory l).mpr hl.directory⟩

theorem put (hl : l ≠ []) (he : e = .directory ↔ e' = .directory) :
    (d.put l e).SameShape (d'.put l e') := by
  refine ⟨h.cwd, fun m => ?_, fun m => ?_⟩
  · rw [entry?_put hl, entry?_put hl]
    split_ifs
    · simp
    · exact h.absent m
  · rw [entry?_put hl, entry?_put hl]
    split_ifs
    · simpa using he.symm
    · exact h.directory m

theorem drop (hl : l ≠ []) : (d.drop l).SameShape (d'.drop l) := by
  refine ⟨h.cwd, fun m => ?_, fun m => ?_⟩
  · rw [entry?_drop hl, entry?_drop hl]
    split_ifs
    · rfl
    · exact h.absent m
  · rw [entry?_drop hl, entry?_drop hl]
    split_ifs
    · rfl
    · exact h.directory m

end Looking

end SameShape

/-! ### Blind operations -/

section Blind

variable {ε ε' : Type} {r r' : Except ε Unit × Disk}

/-- Two operations end alike and leave disks of one shape. -/
def EndAlike (r r' : Except ε Unit × Disk) : Prop := r'.1 = r.1 ∧ r.2.SameShape r'.2

/-- An operation that reads no file. -/
def Blind (op : Disk → Except ε Unit × Disk) : Prop :=
  ∀ d d', d.SameShape d' → EndAlike (op d) (op d')

theorem EndAlike.exists_eq (h : EndAlike r r') :
    ∃ x d d', r = (x, d) ∧ r' = (x, d') ∧ d.SameShape d' :=
  ⟨r.1, r.2, r'.2, rfl, Prod.ext h.1 rfl, h.2⟩

theorem EndAlike.mapError (h : EndAlike r r') (f : ε → ε') :
    EndAlike (r.1.mapError f, r.2) (r'.1.mapError f, r'.2) :=
  ⟨congrArg (Except.mapError f) h.1, h.2⟩

end Blind

theorem blind_makeDirectory (p : Path) : Blind (makeDirectory · p) := by
  intro d d' h
  simp only [makeDirectory, h.locate p]
  cases hl : d.locate p with
  | error e => exact ⟨rfl, h⟩
  | ok l =>
      obtain ⟨hne, hd, hd'⟩ | ⟨hd, hd'⟩ | ⟨_, _, hne, hd, hd'⟩ := h.cases_entry? l
      · simp only [hd, hd']
        exact ⟨rfl, h.put hne .rfl⟩
      all_goals
        simp only [hd, hd']
        exact ⟨rfl, h⟩

theorem EndAlike.settle {r r' : Except SystemFault Unit × Disk} (h : EndAlike r r') (p : Path) :
    EndAlike (settle p r) (settle p r') := by
  obtain ⟨x, d, d', rfl, rfl, hd⟩ := h.exists_eq
  cases x with
  | ok _ => exact h
  | error e =>
      rw [Disk.settle, Disk.settle, hd.isDirectory p]
      split_ifs <;> exact ⟨rfl, hd⟩

theorem blind_makeDirectoriesUp (cs : List Component) : Blind (makeDirectoriesUp · cs) := by
  induction cs with
  | nil => exact fun d d' h => ⟨rfl, h⟩
  | cons c up ih =>
      intro d d' h
      let p := Path.ofComponents (c :: up).reverse
      have hmake : EndAlike (d.makeDirectory p) (d'.makeDirectory p) := blind_makeDirectory p d d' h
      obtain ⟨x, d₁, d₁', hd, hd', h₁⟩ := hmake.exists_eq
      have hsettle : EndAlike (settle p (x, d₁)) (settle p (x, d₁')) := by
        rw [← hd, ← hd']
        exact hmake.settle p
      simp only [makeDirectoriesUp_cons]
      rw [hd, hd']
      cases x with
      | ok _ => exact hsettle
      | error e =>
          cases e with
          | notFound =>
              -- The directories above are made first, and then this one is tried again.
              obtain ⟨x, d₂, d₂', hup, hup', h₂⟩ := (ih d₁ d₁' h₁).exists_eq
              simp only at hup hup' ⊢
              rw [hup, hup']
              cases x with
              | ok _ => exact (blind_makeDirectory p d₂ d₂' h₂).settle p
              | error e => exact ⟨rfl, h₂⟩
          | _ => exact hsettle

theorem blind_makeDirectories (p : Path) : Blind (makeDirectories · p) :=
  blind_makeDirectoriesUp p.components.reverse

theorem blind_replace (p : Path) (bytes : List UInt8) : Blind (replace · p bytes) := by
  intro d d' h
  simp only [replace, h.locate p]
  cases hl : d.locate p with
  | error e => exact ⟨rfl, h⟩
  | ok l =>
      simp only
      split_ifs
      · exact ⟨rfl, h⟩
      · obtain ⟨hne, hd, hd'⟩ | ⟨hd, hd'⟩ | ⟨_, _, hne, hd, hd'⟩ := h.cases_entry? l
        · rw [hd, hd']
          exact ⟨rfl, h.put hne .rfl⟩
        · rw [hd, hd']
          exact ⟨rfl, h⟩
        · rw [hd, hd']
          exact ⟨rfl, h.put hne .rfl⟩

theorem blind_writeText (p : Path) (text : String) : Blind (writeText · p text) := by
  intro d d' h
  change EndAlike (d.writeBytes p text.toUTF8.toList) (d'.writeBytes p text.toUTF8.toList)
  delta writeBytes
  obtain ⟨x, d₁, d₁', hd, hd', h₁⟩ := (blind_makeDirectories (home p) d d' h).exists_eq
  simp only at hd hd'
  rw [hd, hd']
  cases x with
  | error e => exact ⟨rfl, h₁⟩
  | ok _ =>
      obtain ⟨x, d₂, d₂', hd, hd', h₂⟩ := (blind_replace p text.toUTF8.toList d₁ d₁' h₁).exists_eq
      simp only at hd hd' ⊢
      rw [hd, hd']
      cases x <;> exact ⟨rfl, h₂⟩

theorem blind_removeFile (p : Path) : Blind (removeFile · p) := by
  intro d d' h
  cases hl : d.locate p with
  | error e =>
      have hl' : d'.locate p = .error e := (h.locate p).trans hl
      simp only [removeFile, stat, hl, hl', error_bind]
      exact ⟨rfl, h⟩
  | ok l =>
      have hl' : d'.locate p = .ok l := (h.locate p).trans hl
      simp only [removeFile, stat_of_locate hl, stat_of_locate hl', hl, hl']
      obtain ⟨hne, hd, hd'⟩ | ⟨hd, hd'⟩ | ⟨_, _, hne, hd, hd'⟩ := h.cases_entry? l
      · rw [hd, hd']
        exact ⟨rfl, h⟩
      · rw [hd, hd']
        exact ⟨rfl, h⟩
      · rw [hd, hd']
        cases asksDirectory p
        · exact ⟨rfl, h.drop hne⟩
        · exact ⟨rfl, h⟩

end Blueprint.Disk
