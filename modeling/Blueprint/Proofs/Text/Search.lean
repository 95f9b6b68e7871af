import Blueprint.Proofs.Text.Lines
import Blueprint.Text.Basic
import Mathlib.Data.List.Infix
import Mathlib.Data.Nat.Find

/-!
# Where a part of a text stands

A part of a text that no line end is in stands on one line: the one after as many line feeds as
come before the part.
-/

namespace Blueprint.Text

/-- A part of a text that stays on one line. -/
def OnLine (part : List Char) : Prop := ∀ c ∈ part, c ≠ '\n' ∧ c ≠ '\r'

/-- The line with an index holds a part. -/
def LineHolds (s part : String) (i : Nat) : Prop :=
  ∃ line, (lines s)[i]? = some line ∧ part.toList <:+: line.toList

variable {part line : List Char}

theorem holds_iff (part line : List Char) : holds part line = true ↔ part <:+: line := by
  induction line with
  | nil => rw [holds, List.isEmpty_iff, List.infix_nil]
  | cons c line ih =>
      rw [holds, Bool.or_eq_true, List.isPrefixOf_iff_prefix, ih, List.infix_cons_iff]

theorem contains_iff (s part : String) : contains s part = true ↔ part.toList <:+: s.toList :=
  holds_iff _ _

/-- Only what is after the last character of a part is taken off the line. -/
theorem OnLine.infix_chompReturn (h : OnLine part) (hin : part <:+: line) :
    part <:+: chompReturn line := by
  rw [chompReturn]
  split_ifs with hlast
  · obtain ⟨init, rfl⟩ := List.getLast?_eq_some_iff.mp hlast
    rw [List.dropLast_concat]
    rcases List.infix_concat_iff.mp hin with hsuffix | hinit
    · rcases List.suffix_concat_iff.mp hsuffix with rfl | ⟨t, rfl, -⟩
      · exact List.nil_infix
      · exact absurd rfl (h '\r' (List.mem_append_right t List.mem_cons_self)).2
    · exact hinit
  · exact hin

/-- A part of the line that is being read is on the first line that comes. -/
theorem OnLine.exists_head?_linesFrom (h : OnLine part) (hne : part ≠ []) {acc : List Char}
    (hin : part <:+: acc.reverse) (after : List Char) :
    ∃ line, (linesFrom acc after).head? = some line ∧ part <:+: line := by
  induction after generalizing acc with
  | nil =>
      have hacc : ¬ acc.isEmpty = true := by
        rintro hempty
        rw [List.isEmpty_iff.mp hempty] at hin
        exact hne (List.infix_nil.mp hin)
      rw [linesFrom, if_neg hacc]
      exact ⟨_, rfl, hin⟩
  | cons c after ih =>
      by_cases hc : c = '\n'
      · rw [hc, linesFrom]
        exact ⟨_, rfl, h.infix_chompReturn hin⟩
      · rw [linesFrom]
        · refine ih (hin.trans ?_)
          rw [List.reverse_cons]
          exact (List.prefix_append _ _).isInfix
        · exact hc

/-- A part is on the line after as many line feeds as come before it. -/
theorem OnLine.exists_getElem?_linesFrom (h : OnLine part) (hne : part ≠ [])
    (acc before after : List Char) :
    ∃ line, (linesFrom acc (before ++ part ++ after))[before.count '\n']? = some line ∧
      part <:+: line := by
  induction before generalizing acc with
  | nil =>
      have hfeed : '\n' ∉ part := fun hmem => (h _ hmem).1 rfl
      rw [List.nil_append, linesFrom_append_of_notMem hfeed, List.count_nil,
        ← List.head?_eq_getElem?]
      refine h.exists_head?_linesFrom hne ?_ after
      rw [List.reverse_append, List.reverse_reverse]
      exact (List.suffix_append _ _).isInfix
  | cons c before ih =>
      by_cases hc : c = '\n'
      · rw [hc, List.cons_append, List.cons_append, linesFrom, List.count_cons_self,
          List.getElem?_cons_succ]
        exact ih []
      · rw [List.cons_append, List.cons_append, linesFrom, List.count_cons_of_ne hc]
        · exact ih (c :: acc)
        · exact hc

/-- A line of a text holds what is on it. -/
theorem OnLine.lineHolds (h : OnLine part) (hne : part ≠ []) {s : String}
    {before after : List Char} (hs : s.toList = before ++ part ++ after) {sub : String}
    (hsub : sub.toList <:+: part) : LineHolds s sub (before.count '\n') := by
  obtain ⟨line, hline, hin⟩ := h.exists_getElem?_linesFrom hne [] before after
  refine ⟨String.ofList line, ?_, ?_⟩
  · rw [lines, List.getElem?_map, hs, hline]
    rfl
  · rw [String.toList_ofList]
    exact hsub.trans hin

/-! ### The first line with a part -/

/-- A line is the first one that holds a part. -/
def FirstHolds (s part : String) (i : Nat) : Prop :=
  LineHolds s part i ∧ ∀ j < i, ¬ LineHolds s part j

theorem LineHolds.exists_firstHolds {s part : String} {i : Nat} (h : LineHolds s part i) :
    ∃ j ≤ i, FirstHolds s part j := by
  classical
  have hex : ∃ j, LineHolds s part j := ⟨i, h⟩
  exact ⟨Nat.find hex, Nat.find_min' hex h, Nat.find_spec hex, fun _ hj => Nat.find_min hex hj⟩

theorem lineHolds_iff {s part : String} {i : Nat} (hi : i < (lines s).length) :
    LineHolds s part i ↔ contains (lines s)[i] part = true := by
  rw [LineHolds, List.getElem?_eq_getElem hi, contains_iff]
  simp

end Blueprint.Text
