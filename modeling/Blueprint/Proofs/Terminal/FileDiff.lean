import Blueprint.Proofs.Diff.Changes
import Blueprint.Proofs.Terminal.Markup
import Blueprint.Proofs.Text.Rows

/-!
# Reading a diff back

A row of a diff without color is two number columns of one width with a blank behind each, a sign,
a blank and the text of a line. Read back by this, the rows show both files: those that are not
signed as insertions are the old lines, numbered from one, and those that are not signed as
deletions are the new ones. A script is free in what it keeps, and so none of this looks at it.
-/

namespace Blueprint.Terminal

open Diff (LineChange ReturnFree Tag changes)
open Text (Unbroken)

/-- What a row of a diff shows. -/
structure DiffRow where
  old : Option Nat
  new : Option Nat
  sign : Char
  text : String
  deriving DecidableEq

namespace DiffRow

/-- A column is blank, or has a number behind its blanks. -/
def readNumber? (column : List Char) : Option (Option Nat) :=
  match column.dropWhile (· = ' ') with
  | [] => some none
  | digits => if digits.all Char.isDigit then some (some (Nat.ofDigitChars 10 digits 0)) else none

/-- A column is so wide, and a blank stands behind it. -/
def readColumn? (width : Nat) (row : List Char) : Option (Option Nat × List Char) :=
  match row.drop width with
  | ' ' :: rest => (readNumber? (row.take width)).map (·, rest)
  | _ => none

def read? (width : Nat) (row : String) : Option DiffRow := do
  let (old, row) ← readColumn? width row.toList
  let (new, row) ← readColumn? width row
  match row with
  | sign :: ' ' :: text => some ⟨old, new, sign, String.ofList text⟩
  | _ => none

end DiffRow

/-! ### Number columns -/

/-- The number of a line, if there is one, has no more digits than that. -/
def Fits (width : Nat) (line : Option Nat) : Prop := ∀ i ∈ line, (toString (i + 1)).length ≤ width

section Columns

variable {width : Nat} {line : Option Nat}

theorem toList_numberColumn (width i : Nat) :
    (numberColumn width (some i)).toList =
      List.replicate (width - (toString (i + 1)).length) ' ' ++ Nat.toDigits 10 (i + 1) := by
  rw [numberColumn, Text.padLeft, Text.spaces, String.toList_append, String.toList_ofList]
  exact congrArg _ Nat.toList_repr

theorem length_numberColumn (h : Fits width line) :
    (numberColumn width line).toList.length = width := by
  cases line with
  | none => simp [numberColumn, Text.spaces]
  | some i =>
      have hi := h i rfl
      rw [numberColumn, Text.padLeft, Text.spaces, String.toList_append, String.toList_ofList,
        List.length_append, List.length_replicate, String.length_toList]
      omega

theorem dropWhile_blanks {cs : List Char} (n : Nat) (h : ' ' ∉ cs) :
    (List.replicate n ' ' ++ cs).dropWhile (· = ' ') = cs := by
  rw [List.dropWhile_append_of_pos, Diff.dropWhile_of_notMem h]
  exact fun c hc => decide_eq_true (List.eq_of_mem_replicate hc)

theorem readNumber?_numberColumn (width : Nat) (line : Option Nat) :
    DiffRow.readNumber? (numberColumn width line).toList = some (line.map (· + 1)) := by
  cases line with
  | none =>
      have hblank := dropWhile_blanks width (List.not_mem_nil (a := ' '))
      rw [List.append_nil] at hblank
      rw [numberColumn, Text.spaces, String.toList_ofList, DiffRow.readNumber?, hblank]
      rfl
  | some i =>
      have hdigit {c : Char} (hc : c ∈ Nat.toDigits 10 (i + 1)) : c.isDigit :=
        Nat.isDigit_of_mem_toDigits (by decide) (by decide) hc
      have hblank : ' ' ∉ Nat.toDigits 10 (i + 1) := fun hc => absurd (hdigit hc) (by decide)
      rw [toList_numberColumn, DiffRow.readNumber?, dropWhile_blanks _ hblank]
      split
      next hnil => exact absurd hnil Nat.toDigits_ne_nil
      next =>
        rw [if_pos (List.all_eq_true.mpr fun c => hdigit), Nat.ofDigitChars_ten_toDigits]
        rfl

theorem readColumn?_append (h : Fits width line) (rest : List Char) :
    DiffRow.readColumn? width ((numberColumn width line).toList ++ ' ' :: rest) =
      some (line.map (· + 1), rest) := by
  have hlength := length_numberColumn h
  rw [DiffRow.readColumn?, List.drop_left' hlength, List.take_left' hlength,
    readNumber?_numberColumn]
  rfl

end Columns

/-! ### Rows -/

def signOf : Tag → Char
  | .keep => ' '
  | .delete => '-'
  | .insert => '+'

/-- What the row of a change is to show. -/
def DiffRow.ofChange (c : LineChange) : DiffRow :=
  ⟨c.old.map (· + 1), c.new.map (· + 1), signOf c.tag, withoutLineEnd c.text⟩

theorem read?_changeRow {width : Nat} {c : LineChange} (hold : Fits width c.old)
    (hnew : Fits width c.new) :
    DiffRow.read? width (changeRow width c) = some (.ofChange c) := by
  have hsign : (tagSign c.tag).toList = [signOf c.tag] := by cases c.tag <;> rfl
  have htext : (changeRow width c).toList = (numberColumn width c.old).toList ++
      ' ' :: ((numberColumn width c.new).toList ++
        ' ' :: signOf c.tag :: ' ' :: (withoutLineEnd c.text).toList) := by
    simp [changeRow, hsign]
  rw [DiffRow.read?, htext, readColumn?_append hold, Option.bind_eq_bind, Option.bind_some]
  dsimp only
  rw [readColumn?_append hnew, Option.bind_some]
  simp [DiffRow.ofChange]

/-! ### Both sides -/

/-- Lines with their numbers from one. -/
def numbered (ls : List String) : List (Option Nat × String) :=
  ls.mapIdx fun i l => (some (i + 1), l)

/-- The rows of a diff show the old lines and the new ones. -/
structure Shows (rows : List DiffRow) (old new : List String) : Prop where
  signed : ∀ r ∈ rows, r.sign = ' ' ∨ r.sign = '-' ∧ r.new = none ∨ r.sign = '+' ∧ r.old = none
  old : (rows.filter fun r => r.sign = ' ' ∨ r.sign = '-').map (fun r => (r.old, r.text)) =
    numbered old
  new : (rows.filter fun r => r.sign = ' ' ∨ r.sign = '+').map (fun r => (r.new, r.text)) =
    numbered new

section Sides

variable {old new : String} {c : LineChange}

theorem exists_of_mem_numbered {p : Option Nat × String} {ls : List String}
    (h : p ∈ numbered ls) : ∃ i < ls.length, p.1 = some (i + 1) ∧ p.2 ∈ ls := by
  obtain ⟨i, hi, rfl⟩ := List.mem_mapIdx.mp h
  exact ⟨i, hi, rfl, List.getElem_mem hi⟩

/-- What a row shows of a line at its place. -/
def shownLine (p : Option Nat × String) : Option Nat × String :=
  (p.1.map (· + 1), withoutLineEnd p.2)

theorem map_shownLine_stretch (h : ReturnFree old) :
    (Diff.stretch (Diff.tokens old) 0 (Diff.tokens old).size).map shownLine =
      numbered (Text.lines old) := by
  rw [← Diff.tokens_lines h, numbered]
  refine List.ext_getElem ?_ fun i hi _ => ?_
  · simp [Diff.stretch]
  · have hsize : i < (Diff.tokens old).size := by simpa [Diff.stretch] using hi
    simp [Diff.stretch, shownLine, hsize]

theorem map_shownLine_oldSide (h : ReturnFree old) (new : String) :
    (Diff.oldSide (changes old new)).map shownLine = numbered (Text.lines old) := by
  rw [(Diff.sides_changes old new).1, map_shownLine_stretch h]

theorem map_shownLine_newSide (old : String) (h : ReturnFree new) :
    (Diff.newSide (changes old new)).map shownLine = numbered (Text.lines new) := by
  rw [(Diff.sides_changes old new).2, map_shownLine_stretch h]

theorem shownLine_old_mem (h : ReturnFree old) (hc : c ∈ changes old new) (htag : c.tag ≠ .insert) :
    shownLine (c.old, c.text) ∈ numbered (Text.lines old) := by
  rw [← map_shownLine_oldSide h new]
  exact List.mem_map_of_mem (Diff.mem_oldSide hc htag)

theorem shownLine_new_mem (h : ReturnFree new) (hc : c ∈ changes old new) (htag : c.tag ≠ .delete) :
    shownLine (c.new, c.text) ∈ numbered (Text.lines new) := by
  rw [← map_shownLine_newSide old h]
  exact List.mem_map_of_mem (Diff.mem_newSide hc htag)

theorem length_toString_le {m n : Nat} (h : m ≤ n) :
    (toString m).length ≤ (toString n).length := by
  have hpos : 0 < (toString n).length := Nat.length_repr_pos
  have hbound := (Nat.length_repr_le_iff hpos).mp (Nat.le_refl _)
  exact (Nat.length_repr_le_iff hpos).mpr (Nat.lt_of_le_of_lt h hbound)

/-- The number of a line has no more digits than the number of lines. -/
theorem fits_of_mem_numbered {width : Nat} {ls : List String} {line : Option Nat} {text : String}
    (hwidth : (toString ls.length).length ≤ width) (h : shownLine (line, text) ∈ numbered ls) :
    Fits width line := by
  obtain ⟨i, hi, hline, -⟩ := exists_of_mem_numbered h
  intro j hj
  rw [shownLine, Option.mem_def.mp hj] at hline
  have hnumber : j + 1 = i + 1 := Option.some.inj hline
  rw [hnumber]
  exact (length_toString_le hi).trans hwidth

/-- The columns are wide enough for the lines of either side. -/
theorem le_numberWidth (old new : String) :
    (toString (Text.lines old).length).length ≤ numberWidth old new ∧
      (toString (Text.lines new).length).length ≤ numberWidth old new :=
  ⟨length_toString_le (by omega), length_toString_le (by omega)⟩

theorem fits_changes (hold : ReturnFree old) (hnew : ReturnFree new) (hc : c ∈ changes old new) :
    Fits (numberWidth old new) c.old ∧ Fits (numberWidth old new) c.new := by
  obtain ⟨hwidth_old, hwidth_new⟩ := le_numberWidth old new
  have hplaced := Diff.forall_changes_placed old new c hc
  constructor
  · by_cases htag : c.tag = .insert
    · rw [hplaced.old.mpr htag]
      exact fun _ h => nomatch h
    · exact fits_of_mem_numbered hwidth_old (shownLine_old_mem hold hc htag)
  · by_cases htag : c.tag = .delete
    · rw [hplaced.new.mpr htag]
      exact fun _ h => nomatch h
    · exact fits_of_mem_numbered hwidth_new (shownLine_new_mem hnew hc htag)

/-- A row shows a line of one of the sides. -/
theorem text_mem_lines (hold : ReturnFree old) (hnew : ReturnFree new) (hc : c ∈ changes old new) :
    withoutLineEnd c.text ∈ Text.lines old ∨ withoutLineEnd c.text ∈ Text.lines new := by
  by_cases htag : c.tag = .insert
  · have hdelete : c.tag ≠ .delete := by rw [htag]; decide
    obtain ⟨-, -, -, hmem⟩ := exists_of_mem_numbered (shownLine_new_mem hnew hc hdelete)
    exact .inr hmem
  · obtain ⟨-, -, -, hmem⟩ := exists_of_mem_numbered (shownLine_old_mem hold hc htag)
    exact .inl hmem

theorem shows_changes (hold : ReturnFree old) (hnew : ReturnFree new) :
    Shows ((changes old new).map DiffRow.ofChange) (Text.lines old) (Text.lines new) where
  signed := by
    refine List.forall_mem_map.mpr fun c hc => ?_
    have hplaced := Diff.forall_changes_placed old new c hc
    cases htag : c.tag with
    | keep => exact .inl (by rw [DiffRow.ofChange, htag]; rfl)
    | delete => exact .inr (.inl (by simp [DiffRow.ofChange, htag, signOf, hplaced.new.mpr htag]))
    | insert => exact .inr (.inr (by simp [DiffRow.ofChange, htag, signOf, hplaced.old.mpr htag]))
  old := by
    rw [← map_shownLine_oldSide hold new, List.filter_map, List.map_map, Diff.oldSide, List.map_map]
    have hsign : ∀ c : LineChange,
        ((DiffRow.ofChange c).sign = ' ' ∨ (DiffRow.ofChange c).sign = '-') ↔ c.tag ≠ .insert := by
      intro c
      cases htag : c.tag <;> simp [DiffRow.ofChange, htag, signOf]
    simp only [Function.comp_def, hsign]
    rfl
  new := by
    rw [← map_shownLine_newSide old hnew, List.filter_map, List.map_map, Diff.newSide, List.map_map]
    have hsign : ∀ c : LineChange,
        ((DiffRow.ofChange c).sign = ' ' ∨ (DiffRow.ofChange c).sign = '+') ↔ c.tag ≠ .delete := by
      intro c
      cases htag : c.tag <;> simp [DiffRow.ofChange, htag, signOf]
    simp only [Function.comp_def, hsign]
    rfl

end Sides

/-! ### The text of a diff -/

theorem isLine_numberColumn (width : Nat) (line : Option Nat) :
    Text.IsLine (numberColumn width line) := by
  have hblank : ' ' ≠ '\n' ∧ ' ' ≠ '\r' := by decide
  intro c hc
  cases line with
  | none =>
      rw [numberColumn, Text.spaces, String.toList_ofList] at hc
      exact List.eq_of_mem_replicate hc ▸ hblank
  | some i =>
      rw [toList_numberColumn, List.mem_append] at hc
      rcases hc with hc | hc
      · exact List.eq_of_mem_replicate hc ▸ hblank
      · have hdigit : c.isDigit := Nat.isDigit_of_mem_toDigits (by decide) (by decide) hc
        refine ⟨fun heq => ?_, fun heq => ?_⟩
        · exact absurd (heq ▸ hdigit) (by decide)
        · exact absurd (heq ▸ hdigit) (by decide)

/-- A row is a line, as the text that it shows is one. -/
theorem isLine_changeRow (width : Nat) {c : LineChange}
    (h : Text.IsLine (withoutLineEnd c.text)) : Text.IsLine (changeRow width c) := by
  have hblank : Text.IsLine " " := by simp [Text.IsLine]
  have hsign : Text.IsLine (tagSign c.tag) := by cases c.tag <;> simp [tagSign, Text.IsLine]
  exact ((((((isLine_numberColumn width c.old).append hblank).append
    (isLine_numberColumn width c.new)).append hblank).append hsign).append hblank).append h

theorem isLine_of_mem_lines {s line : String} (h : ReturnFree s) (hline : line ∈ Text.lines s) :
    Text.IsLine line := by
  intro c hc
  constructor
  · rintro rfl
    exact Text.unbroken_of_mem_lines hline hc
  · rintro rfl
    exact h (Text.mem_of_mem_lines hline hc)

/-- Behind the two lines of its head a diff has a row for every change. -/
theorem lines_fileDiff {path : String} {old : Option String} {new : String}
    (hpath : Unbroken path) (hold : ReturnFree (old.getD "")) (hnew : ReturnFree new) :
    (Text.lines (fileDiff path old new .plain)).drop 2 =
      (changes (old.getD "") new).map (changeRow (numberWidth (old.getD "") new)) := by
  have hname : '\n' ∉ path.toList.dropWhile (· = '/') := fun hmem =>
    hpath ((List.dropWhile_sublist _).subset hmem)
  have hrows : ∀ row ∈ (changes (old.getD "") new).map
      (changeRow (numberWidth (old.getD "") new)), Text.IsLine row := by
    refine List.forall_mem_map.mpr fun c hc => isLine_changeRow _ ?_
    exact (text_mem_lines hold hnew hc).elim (isLine_of_mem_lines hold) (isLine_of_mem_lines hnew)
  rw [fileDiff]
  simp only [paint_plain, List.cons_append, List.nil_append]
  rw [Text.lines_unlines_cons, Text.lines_unlines_cons, Text.lines_unlines hrows]
  · rfl
  · simpa using hname
  · split
    next => simpa using hname
    next => decide

/-- Without color the rows of a diff read back to the lines of both files, numbered from one. -/
theorem fileDiff_reads_back {path : String} {old : Option String} {new : String}
    (hpath : Unbroken path) (hold : ReturnFree (old.getD "")) (hnew : ReturnFree new) :
    ∃ rows : List DiffRow,
      ((Text.lines (fileDiff path old new .plain)).drop 2).map
          (DiffRow.read? (numberWidth (old.getD "") new)) = rows.map some ∧
        Shows rows (Text.lines (old.getD "")) (Text.lines new) := by
  refine ⟨(changes (old.getD "") new).map DiffRow.ofChange, ?_, shows_changes hold hnew⟩
  rw [lines_fileDiff hpath hold hnew, List.map_map, List.map_map]
  refine List.map_congr_left fun c hc => ?_
  obtain ⟨hc_old, hc_new⟩ := fits_changes hold hnew hc
  exact read?_changeRow hc_old hc_new

/-- A file whose line changes and that gets one more. -/
theorem fileDiff_reads_back_of_change :
    Unbroken "/Domain/A.cs" ∧ ReturnFree ((some "a\nb").getD "") ∧ ReturnFree "a\nc\nd\n" ∧
      ∃ rows : List DiffRow,
        ((Text.lines (fileDiff "/Domain/A.cs" (some "a\nb") "a\nc\nd\n" .plain)).drop 2).map
            (DiffRow.read? (numberWidth ((some "a\nb").getD "") "a\nc\nd\n")) = rows.map some ∧
          Shows rows (Text.lines ((some "a\nb").getD "")) (Text.lines "a\nc\nd\n") :=
  have hpath : Unbroken "/Domain/A.cs" := by decide
  have hold : ReturnFree ((some "a\nb").getD "") := by decide
  have hnew : ReturnFree "a\nc\nd\n" := by decide
  ⟨hpath, hold, hnew, fileDiff_reads_back hpath hold hnew⟩

end Blueprint.Terminal
