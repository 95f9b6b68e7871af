import Blueprint.Text.Basic
import Blueprint.Text.Case
import Mathlib.Data.Fintype.Basic
import Mathlib.Tactic.SplitIfs

/-!
# Rows of a text

The rows of a text are what stands between the characters that end a line: the line feed, and
whichever others are taken to do so. A text that is joined from lines has the rows of its lines. A
text without line feeds is a single row, and stays one when the case of its first letter changes.
-/

namespace Blueprint.Text

def rows (ends : Char → Bool) (s : String) : List (List Char) := s.toList.splitOnP ends

variable {ends : Char → Bool} {s t : String}

theorem rows_ne_nil (ends : Char → Bool) (s : String) : rows ends s ≠ [] :=
  List.splitOnP_ne_nil _ _

theorem rows_of_forall (h : ∀ c ∈ s.toList, ends c = false) : rows ends s = [s.toList] :=
  List.splitOnP_eq_singleton h

theorem rows_append_of_end {c : Char} (hc : ends c = true) (s t : String) :
    rows ends (s ++ String.singleton c ++ t) = rows ends s ++ rows ends t := by
  have hsplit := List.splitOnP_append_cons s.toList t.toList hc
  simpa [rows] using hsplit

/-- What stands in front of a text goes to its first row. -/
theorem rows_append_of_forall (h : ∀ c ∈ s.toList, ends c = false) (t : String) :
    rows ends (s ++ t) = (rows ends t).modifyHead (s.toList ++ ·) := by
  rw [rows, rows, String.toList_append]
  generalize s.toList = lead at h
  induction lead with
  | nil =>
      cases hrows : List.splitOnP ends t.toList <;> simp [hrows]
  | cons c lead ih =>
      obtain ⟨hc, hlead⟩ := List.forall_mem_cons.mp h
      rw [List.cons_append, List.splitOnP_cons_eq_if_modifyHead, if_neg (by simp [hc]), ih hlead,
        List.modifyHead_modifyHead]
      rfl

theorem rows_joinLines (hfeed : ends '\n' = true) {ls : List String} (h : ls ≠ []) :
    rows ends (joinLines ls) = ls.flatMap (rows ends) := by
  rw [joinLines]
  induction ls with
  | nil => exact absurd rfl h
  | cons l ls ih =>
      rw [List.flatMap_cons]
      cases ls with
      | nil => rw [String.intercalate_singleton, List.flatMap_nil, List.append_nil]
      | cons m ls =>
          have hcut := rows_append_of_end hfeed l ("\n".intercalate (m :: ls))
          rw [String.intercalate_cons_cons, ← ih (List.cons_ne_nil m ls), ← hcut]
          rfl

/-! ### Texts without line feeds -/

/-- The line feed ends a line, and nothing else does. -/
def isFeed (c : Char) : Bool := c == '\n'

/-- A text that takes up one row. -/
def Unbroken (s : String) : Prop := '\n' ∉ s.toList

instance : DecidablePred Unbroken := fun s => inferInstanceAs (Decidable ('\n' ∉ s.toList))

theorem Unbroken.rows (h : Unbroken s) : rows isFeed s = [s.toList] := by
  refine rows_of_forall fun c hc => ?_
  have hne : c ≠ '\n' := fun heq => h (heq ▸ hc)
  exact beq_eq_false_iff_ne.mpr hne

@[simp] theorem unbroken_append : Unbroken (s ++ t) ↔ Unbroken s ∧ Unbroken t := by
  simp [Unbroken]

theorem unbroken_intercalate {glue : String} {ls : List String} (hglue : Unbroken glue)
    (h : ∀ l ∈ ls, Unbroken l) : Unbroken (glue.intercalate ls) := by
  induction ls with
  | nil => simp [Unbroken]
  | cons l ls ih =>
      obtain ⟨hl, hls⟩ := List.forall_mem_cons.mp h
      cases ls with
      | nil => rwa [String.intercalate_singleton]
      | cons m ls =>
          rw [String.intercalate_cons_cons, unbroken_append, unbroken_append]
          exact ⟨⟨hl, hglue⟩, ih hls⟩

theorem feed_notMem_of_mem_linesFrom {acc cs line : List Char} (hacc : '\n' ∉ acc)
    (h : line ∈ linesFrom acc cs) : '\n' ∉ line := by
  induction cs generalizing acc with
  | nil =>
      rw [linesFrom] at h
      split_ifs at h
      · exact absurd h List.not_mem_nil
      · rwa [List.mem_singleton.mp h, List.mem_reverse]
  | cons c cs ih =>
      by_cases hc : c = '\n'
      · rw [hc, linesFrom, List.mem_cons] at h
        rcases h with heq | hmem
        · rw [heq, chompReturn]
          split_ifs
          · exact fun hfeed => hacc (List.mem_reverse.mp (List.mem_of_mem_dropLast hfeed))
          · rwa [List.mem_reverse]
        · exact ih List.not_mem_nil hmem
      · rw [linesFrom] at h
        · exact ih (List.not_mem_cons_of_ne_of_not_mem (Ne.symm hc) hacc) h
        · exact hc

theorem unbroken_of_mem_lines (h : t ∈ lines s) : Unbroken t := by
  obtain ⟨line, hline, rfl⟩ := List.mem_map.mp h
  rw [Unbroken, String.toList_ofList]
  exact feed_notMem_of_mem_linesFrom List.not_mem_nil hline

/-! ### Letter case -/

theorem ofNat_eq_feed {n : Nat} (h : Char.ofNat n = '\n') : n = 10 := by
  by_cases hn : n.isValidChar
  · rw [Char.ofNat, dif_pos hn] at h
    exact congrArg Char.toNat h
  · rw [Char.ofNat, dif_neg hn] at h
    exact absurd h (by decide)

theorem forall_ascii {p : Char → Prop} (h : ∀ n : Fin 128, p (Char.ofNat n)) {c : Char}
    (hc : c.toNat < 128) : p c :=
  Char.ofNat_toNat c ▸ h ⟨c.toNat, hc⟩

/-- No character is mapped to a line feed, as long as the tables do not say so. -/
theorem feed_notMem_mapChar {runs : List CaseRun} {expansions : List (Nat × List Nat)}
    (hruns : ∀ run ∈ runs, 10 < run.image) (hexpansions : ∀ e ∈ expansions, 10 ∉ e.2) {c : Char}
    (hc : c ≠ '\n') : '\n' ∉ mapChar runs expansions c := by
  rw [mapChar]
  split
  next e image hfind =>
    intro hmem
    obtain ⟨n, hn, hfeed⟩ := List.mem_map.mp hmem
    exact hexpansions _ (List.mem_of_find?_eq_some hfind) (ofNat_eq_feed hfeed ▸ hn)
  next =>
    split
    next run hfind =>
      intro hmem
      have himage := hruns run (List.mem_of_find?_eq_some hfind)
      have htarget := ofNat_eq_feed (List.mem_singleton.mp hmem).symm
      rw [CaseRun.target] at htarget
      omega
    next => exact fun hmem => hc (List.mem_singleton.mp hmem).symm

theorem feed_notMem_upperChar {c : Char} (hc : c ≠ '\n') : '\n' ∉ upperChar c := by
  rw [upperChar]
  split_ifs with hascii
  · exact forall_ascii (p := fun c => c ≠ '\n' → '\n' ∉ [c.toUpper]) (by decide) hascii hc
  · exact feed_notMem_mapChar (by decide +kernel) (by decide) hc

theorem feed_notMem_lowerChar {c : Char} (hc : c ≠ '\n') : '\n' ∉ lowerChar c := by
  rw [lowerChar]
  split_ifs with hascii
  · exact forall_ascii (p := fun c => c ≠ '\n' → '\n' ∉ [c.toLower]) (by decide) hascii hc
  · exact feed_notMem_mapChar (by decide +kernel) (by decide) hc

theorem Unbroken.mapFirst {f : Char → List Char} (hf : ∀ c, c ≠ '\n' → '\n' ∉ f c)
    (h : Unbroken s) : Unbroken (mapFirst f s) := by
  rw [Unbroken] at h
  rw [Text.mapFirst]
  cases hs : s.toList with
  | nil => exact List.not_mem_nil
  | cons c rest =>
      rw [hs, List.mem_cons, not_or] at h
      simp only [Unbroken, String.toList_ofList, List.mem_append, not_or]
      exact ⟨hf c (Ne.symm h.1), h.2⟩

theorem Unbroken.pascal (h : Unbroken s) : Unbroken (pascal s) :=
  h.mapFirst fun _ => feed_notMem_upperChar

theorem Unbroken.camel (h : Unbroken s) : Unbroken (camel s) :=
  h.mapFirst fun _ => feed_notMem_lowerChar

end Blueprint.Text
