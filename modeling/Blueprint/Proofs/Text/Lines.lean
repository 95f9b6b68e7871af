import Blueprint.Text.Basic
import Mathlib.Data.List.Basic

/-!
# Lines of a text

Lines without line feeds and carriage returns, each ended by a line feed, are the lines of the text
that they make up.
-/

namespace Blueprint.Text

/-- A text with nothing in it that ends a line. -/
def IsLine (s : String) : Prop := ∀ c ∈ s.toList, c ≠ '\n' ∧ c ≠ '\r'

theorem IsLine.append {s t : String} (hs : IsLine s) (ht : IsLine t) : IsLine (s ++ t) := by
  intro c hc
  rw [String.toList_append, List.mem_append] at hc
  exact hc.elim (hs c) (ht c)

/-- Characters without line feeds are read into the current line. -/
theorem linesFrom_append_of_notMem {cs : List Char} (h : '\n' ∉ cs) (acc rest : List Char) :
    linesFrom acc (cs ++ rest) = linesFrom (cs.reverse ++ acc) rest := by
  induction cs generalizing acc with
  | nil => rfl
  | cons c cs ih =>
      rw [List.mem_cons, not_or] at h
      rw [List.cons_append, linesFrom]
      · rw [ih h.2, List.reverse_cons, List.append_assoc, List.singleton_append]
      · exact fun heq => h.1 heq.symm

theorem linesFrom_append {line : List Char} (h : '\n' ∉ line) (acc rest : List Char) :
    linesFrom acc (line ++ '\n' :: rest) =
      chompReturn (acc.reverse ++ line) :: linesFrom [] rest := by
  rw [linesFrom_append_of_notMem h, linesFrom, List.reverse_append, List.reverse_reverse]

theorem chompReturn_of_isLine {s : String} (h : IsLine s) : chompReturn s.toList = s.toList := by
  rw [chompReturn, if_neg]
  exact fun hlast => (h _ (List.mem_of_getLast? hlast)).2 rfl

theorem unlines_cons (l : String) (ls : List String) :
    unlines (l :: ls) = l ++ "\n" ++ unlines ls := by
  simp [unlines]

theorem unlines_append (ls ms : List String) : unlines (ls ++ ms) = unlines ls ++ unlines ms := by
  simp [unlines]

/-- What comes after a line feed is read by itself. -/
theorem linesFrom_append_feed (acc cs rest : List Char) :
    linesFrom acc (cs ++ '\n' :: rest) = linesFrom acc (cs ++ ['\n']) ++ linesFrom [] rest := by
  induction cs generalizing acc with
  | nil => simp [linesFrom]
  | cons c cs ih =>
      by_cases hc : c = '\n'
      · rw [hc, List.cons_append, linesFrom, ih, List.cons_append, linesFrom, List.cons_append]
      · rw [List.cons_append, linesFrom, ih, List.cons_append, linesFrom]
        · exact hc
        · exact hc

/-- Texts that each end in a line feed have the lines that they have one by one. -/
theorem lines_unlines_eq_flatMap (ls : List String) :
    lines (unlines ls) = ls.flatMap fun l => lines (l ++ "\n") := by
  induction ls with
  | nil => rfl
  | cons l ls ih =>
      have hcut := linesFrom_append_feed [] l.toList (unlines ls).toList
      rw [List.flatMap_cons, ← ih, unlines_cons]
      simp [lines, hcut]

/-- A row without line feeds is a line, but for a carriage return at its end. -/
theorem lines_unlines_cons {l : String} (h : '\n' ∉ l.toList) (ls : List String) :
    lines (unlines (l :: ls)) = String.ofList (chompReturn l.toList) :: lines (unlines ls) := by
  have htext : (unlines (l :: ls)).toList = l.toList ++ '\n' :: (unlines ls).toList := by
    simp [unlines_cons]
  rw [lines, htext, linesFrom_append h, List.map_cons, List.reverse_nil, List.nil_append]
  rfl

theorem lines_unlines {ls : List String} (h : ∀ l ∈ ls, IsLine l) : lines (unlines ls) = ls := by
  induction ls with
  | nil => rfl
  | cons l ls ih =>
      obtain ⟨hl, hls⟩ := List.forall_mem_cons.mp h
      rw [lines_unlines_cons fun hmem => (hl _ hmem).1 rfl, chompReturn_of_isLine hl,
        String.ofList_toList, ih hls]

/-- Lines have no other characters than their text. -/
theorem mem_of_mem_linesFrom {acc cs line : List Char} (h : line ∈ linesFrom acc cs) {c : Char}
    (hc : c ∈ line) : c ∈ acc ∨ c ∈ cs := by
  induction cs generalizing acc with
  | nil =>
      rw [linesFrom] at h
      split at h
      next => exact absurd h List.not_mem_nil
      next => exact .inl (List.mem_reverse.mp (List.mem_singleton.mp h ▸ hc))
  | cons d cs ih =>
      by_cases hd : d = '\n'
      · rw [hd, linesFrom, List.mem_cons] at h
        rcases h with heq | hmem
        · rw [heq, chompReturn] at hc
          split at hc
          next => exact .inl (List.mem_reverse.mp (List.dropLast_subset _ hc))
          next => exact .inl (List.mem_reverse.mp hc)
        · exact .inr (List.mem_cons_of_mem d ((ih hmem).resolve_left List.not_mem_nil))
      · rw [linesFrom] at h
        · rcases ih h with hacc | hcs
          · rcases List.mem_cons.mp hacc with rfl | hacc
            · exact .inr List.mem_cons_self
            · exact .inl hacc
          · exact .inr (List.mem_cons_of_mem d hcs)
        · exact hd

theorem mem_of_mem_lines {s line : String} (h : line ∈ lines s) {c : Char} (hc : c ∈ line.toList) :
    c ∈ s.toList := by
  obtain ⟨cs, hcs, rfl⟩ := List.mem_map.mp h
  rw [String.toList_ofList] at hc
  exact (mem_of_mem_linesFrom hcs hc).resolve_left List.not_mem_nil

end Blueprint.Text
