import Blueprint.Proofs.Diff.Compact
import Blueprint.Proofs.Text.Lines
import Blueprint.Terminal.Changes

/-!
# The two sides of a diff

Of the changes that a valid script is written out to, those that are no insertions are the lines of
the old side in their order, and those that are no deletions are the lines of the new side. Without
carriage returns the parts that a text is compared by are its lines, each with its line feed.
-/

namespace Blueprint.Diff

variable {a b : Array String} {runs : List Run} {i j k l : Nat}

/-- The lines from one place on a side to another, with their places. -/
def stretch (a : Array String) (i k : Nat) : List (Option Nat × String) :=
  (List.range' i (k - i)).map fun n => (some n, a.getD n "")

theorem stretch_append (a : Array String) (hij : i ≤ j) (hjk : j ≤ k) :
    stretch a i j ++ stretch a j k = stretch a i k := by
  have hplace : i + (j - i) = j := by omega
  have hlength : j - i + (k - j) = k - i := by omega
  have hcut := @List.range'_append_1 i (j - i) (k - j)
  rw [hplace, hlength] at hcut
  rw [stretch, stretch, stretch, ← List.map_append, hcut]

theorem stretch_self (a : Array String) (i : Nat) : stretch a i i = [] := by
  rw [stretch, Nat.sub_self]
  rfl

/-- The changes that show the old side. -/
def oldSide (cs : List LineChange) : List (Option Nat × String) :=
  (cs.filter (·.tag ≠ .insert)).map fun c => (c.old, c.text)

/-- The changes that show the new side. -/
def newSide (cs : List LineChange) : List (Option Nat × String) :=
  (cs.filter (·.tag ≠ .delete)).map fun c => (c.new, c.text)

theorem mem_oldSide {cs : List LineChange} {c : LineChange} (hc : c ∈ cs) (htag : c.tag ≠ .insert) :
    (c.old, c.text) ∈ oldSide cs :=
  List.mem_map.mpr ⟨c, List.mem_filter.mpr ⟨hc, decide_eq_true htag⟩, rfl⟩

theorem mem_newSide {cs : List LineChange} {c : LineChange} (hc : c ∈ cs) (htag : c.tag ≠ .delete) :
    (c.new, c.text) ∈ newSide cs :=
  List.mem_map.mpr ⟨c, List.mem_filter.mpr ⟨hc, decide_eq_true htag⟩, rfl⟩

theorem oldSide_append (cs ds : List LineChange) :
    oldSide (cs ++ ds) = oldSide cs ++ oldSide ds := by
  rw [oldSide, List.filter_append, List.map_append, oldSide, oldSide]

theorem newSide_append (cs ds : List LineChange) :
    newSide (cs ++ ds) = newSide cs ++ newSide ds := by
  rw [newSide, List.filter_append, List.map_append, newSide, newSide]

theorem stretch_eq_map_range (a : Array String) (i n : Nat) :
    stretch a i (i + n) = (List.range n).map fun m => (some (i + m), a.getD (i + m) "") := by
  rw [stretch, Nat.add_sub_cancel_left, List.range'_eq_map_range, List.map_map]
  rfl

theorem oldSide_changes_keep (n : Nat) :
    oldSide (Run.changes a b ⟨.keep, i, j, n⟩) = stretch a i (i + n) := by
  rw [stretch_eq_map_range]
  simp [oldSide, Run.changes, List.filter_map, Function.comp_def]

theorem oldSide_changes_delete (n : Nat) :
    oldSide (Run.changes a b ⟨.delete, i, j, n⟩) = stretch a i (i + n) := by
  rw [stretch_eq_map_range]
  simp [oldSide, Run.changes, List.filter_map, Function.comp_def]

theorem oldSide_changes_insert (n : Nat) :
    oldSide (Run.changes a b ⟨.insert, i, j, n⟩) = [] := by
  simp [oldSide, Run.changes, List.filter_map, Function.comp_def]

theorem newSide_changes_keep {n : Nat} (hsame : Same a b i j n) :
    newSide (Run.changes a b ⟨.keep, i, j, n⟩) = stretch b j (j + n) := by
  have htext : ∀ m ∈ List.range n, (some (j + m), a.getD (i + m) "") =
      (some (j + m), b.getD (j + m) "") := by
    intro m hm
    rw [Array.getD_eq_getD_getElem?, Array.getD_eq_getD_getElem?, hsame m (List.mem_range.mp hm)]
  rw [stretch_eq_map_range, ← List.map_congr_left htext]
  simp [newSide, Run.changes, List.filter_map, Function.comp_def]

theorem newSide_changes_delete (n : Nat) :
    newSide (Run.changes a b ⟨.delete, i, j, n⟩) = [] := by
  simp [newSide, Run.changes, List.filter_map, Function.comp_def]

theorem newSide_changes_insert (n : Nat) :
    newSide (Run.changes a b ⟨.insert, i, j, n⟩) = stretch b j (j + n) := by
  rw [stretch_eq_map_range]
  simp [newSide, Run.changes, List.filter_map, Function.comp_def]

/-- A script that leads from one place to another shows what lies between on both sides. -/
theorem Leads.sides (h : Leads a b runs i j k l) :
    oldSide (runs.flatMap (Run.changes a b)) = stretch a i k ∧
      newSide (runs.flatMap (Run.changes a b)) = stretch b j l := by
  induction h with
  | done => exact ⟨(stretch_self a _).symm, (stretch_self b _).symm⟩
  | @keep runs i j k l n hsame h ih =>
      obtain ⟨hold, hnew⟩ := h.le
      rw [List.flatMap_cons, oldSide_append, newSide_append, oldSide_changes_keep,
        newSide_changes_keep hsame, ih.1, ih.2, stretch_append a (Nat.le_add_right i n) hold,
        stretch_append b (Nat.le_add_right j n) hnew]
      exact ⟨rfl, rfl⟩
  | @delete runs i j j' k l n h ih =>
      obtain ⟨hold, -⟩ := h.le
      rw [List.flatMap_cons, oldSide_append, newSide_append, oldSide_changes_delete,
        newSide_changes_delete, ih.1, ih.2, stretch_append a (Nat.le_add_right i n) hold]
      exact ⟨rfl, rfl⟩
  | @insert runs i i' j k l n h ih =>
      obtain ⟨-, hnew⟩ := h.le
      rw [List.flatMap_cons, oldSide_append, newSide_append, oldSide_changes_insert,
        newSide_changes_insert, ih.1, ih.2, stretch_append b (Nat.le_add_right j n) hnew]
      exact ⟨rfl, rfl⟩

/-- A change has a place on the sides that its tag shows it on, and on no other. -/
structure LineChange.Placed (c : LineChange) : Prop where
  old : c.old = none ↔ c.tag = .insert
  new : c.new = none ↔ c.tag = .delete

theorem placed_of_mem_changes {r : Run} {c : LineChange} (hc : c ∈ r.changes a b) : c.Placed := by
  obtain ⟨m, -, rfl⟩ := List.mem_map.mp hc
  cases r.tag <;> exact ⟨by simp, by simp⟩

theorem forall_changes_placed (old new : String) : ∀ c ∈ changes old new, c.Placed := by
  intro c hc
  obtain ⟨r, -, hc⟩ := List.mem_flatMap.mp hc
  exact placed_of_mem_changes hc

theorem sides_changes (old new : String) :
    oldSide (changes old new) = stretch (tokens old) 0 (tokens old).size ∧
      newSide (changes old new) = stretch (tokens new) 0 (tokens new).size :=
  (leads_script (tokens old) (tokens new)).sides

/-! ### Lines -/

/-- A text without carriage returns. -/
def ReturnFree (s : String) : Prop := '\r' ∉ s.toList

instance : DecidablePred ReturnFree := fun s => inferInstanceAs (Decidable ('\r' ∉ s.toList))

theorem dropWhile_of_notMem {c : Char} {cs : List Char} (h : c ∉ cs) :
    cs.dropWhile (· = c) = cs := by
  cases cs with
  | nil => rfl
  | cons d cs =>
      rw [List.dropWhile_cons_of_neg]
      simpa using Ne.symm (List.ne_of_not_mem_cons h)

theorem tokensFrom_linesFrom {acc cs : List Char} (hfeed : '\n' ∉ acc) (hreturn : '\r' ∉ acc)
    (hcs : '\r' ∉ cs) :
    (tokensFrom acc cs).map (fun line => (line.reverse.dropWhile (· = '\n')).reverse) =
      Text.linesFrom acc cs := by
  induction cs generalizing acc with
  | nil =>
      rw [tokensFrom, Text.linesFrom]
      split
      next => rfl
      next => rw [List.map_singleton, List.reverse_reverse, dropWhile_of_notMem hfeed]
  | cons c cs ih =>
      rw [List.mem_cons, not_or] at hcs
      by_cases hc : c = '\n'
      · have hchomp : Text.chompReturn acc.reverse = acc.reverse := by
          rw [Text.chompReturn, if_neg]
          exact fun hlast => hreturn (List.mem_reverse.mp (List.mem_of_getLast? hlast))
        rw [hc, tokensFrom, Text.linesFrom, List.map_cons,
          ih List.not_mem_nil List.not_mem_nil hcs.2, hchomp, List.reverse_reverse,
          List.dropWhile_cons_of_pos (by decide), dropWhile_of_notMem hfeed]
      · rw [tokensFrom, Text.linesFrom]
        · exact ih (List.not_mem_cons_of_ne_of_not_mem (Ne.symm hc) hfeed)
            (List.not_mem_cons_of_ne_of_not_mem hcs.1 hreturn) hcs.2
        · exact hc
        · exact fun _ heq _ => hcs.1 heq.symm
        · exact fun heq => hcs.1 heq.symm
        · exact hc

/-- Without carriage returns the parts of a text are its lines with their line feeds. -/
theorem tokens_lines {s : String} (h : ReturnFree s) :
    (tokens s).toList.map Terminal.withoutLineEnd = Text.lines s := by
  have hlines := tokensFrom_linesFrom List.not_mem_nil List.not_mem_nil h
  rw [Text.lines, ← hlines, tokens, List.toList_toArray, List.map_map, List.map_map]
  refine List.map_congr_left fun line _ => ?_
  simp [Terminal.withoutLineEnd]

end Blueprint.Diff
