import Blueprint.Proofs.Text.Rows
import Blueprint.Source.Layout
import Mathlib.Data.List.Infix

/-!
# Layout of sources

A row that holds a brace alone opens or closes a level. The rows of a source nest: no level is
closed that is not open, all are closed in the end, and every row that is not empty is indented by
two spaces for each level that it is inside of. Blocks nest whatever is in them, as long as none of
their texts breaks a line or is a brace itself.
-/

namespace Blueprint

open Text (rows isFeed Unbroken)

/-- A row with nothing but this brace behind its leading spaces. -/
def BraceRow (brace : Char) (row : List Char) : Prop := row.dropWhile (· = ' ') = [brace]

instance (brace : Char) (row : List Char) : Decidable (BraceRow brace row) :=
  inferInstanceAs (Decidable (row.dropWhile (· = ' ') = [brace]))

/-- A row is empty or begins with two spaces for each level. -/
def IndentedTo (depth : Nat) (row : List Char) : Prop :=
  row ≠ [] → List.replicate (2 * depth) ' ' <+: row

/-- Rows that lead from one depth to another. Braces stand outside of the level that they open or
close, and only a level that is open is closed. -/
inductive Nests : Nat → List (List Char) → Nat → Prop
  | done (d : Nat) : Nests d [] d
  | opens {d e : Nat} {row : List Char} {rest : List (List Char)} (brace : BraceRow '\x7b' row)
    (indent : IndentedTo d row) (next : Nests (d + 1) rest e) : Nests d (row :: rest) e
  | closes {d e : Nat} {row : List Char} {rest : List (List Char)} (brace : BraceRow '\x7d' row)
    (indent : IndentedTo d row) (next : Nests d rest e) : Nests (d + 1) (row :: rest) e
  | stays {d e : Nat} {row : List Char} {rest : List (List Char)}
    (not_opens : ¬ BraceRow '\x7b' row) (not_closes : ¬ BraceRow '\x7d' row)
    (indent : IndentedTo d row) (next : Nests d rest e) : Nests d (row :: rest) e

namespace Nests

variable {c d e : Nat} {above below : List (List Char)}

theorem append (h : Nests c above d) (h' : Nests d below e) : Nests c (above ++ below) e := by
  induction h with
  | done d => exact h'
  | opens brace indent _ ih => exact .opens brace indent (ih h')
  | closes brace indent _ ih => exact .closes brace indent (ih h')
  | stays not_opens not_closes indent _ ih => exact .stays not_opens not_closes indent (ih h')

end Nests

/-- What a line of code may say without changing the depth: it breaks no line and is no brace. -/
structure PlainText (t : String) : Prop where
  unbroken : Unbroken t
  not_opens : ¬ BraceRow '\x7b' t.toList
  not_closes : ¬ BraceRow '\x7d' t.toList

namespace PlainText

variable {t : String}

instance (t : String) : Decidable (PlainText t) :=
  decidable_of_iff (Unbroken t ∧ ¬ BraceRow '\x7b' t.toList ∧ ¬ BraceRow '\x7d' t.toList)
    ⟨fun ⟨hbreak, hopen, hclose⟩ => ⟨hbreak, hopen, hclose⟩,
      fun h => ⟨h.unbroken, h.not_opens, h.not_closes⟩⟩

/-- A text is plain when it begins with anything but a space or a brace. -/
theorem of_head (hbreak : Unbroken t)
    (hhead : ∃ c, t.toList.head? = some c ∧ c ≠ ' ' ∧ c ≠ '\x7b' ∧ c ≠ '\x7d') : PlainText t := by
  obtain ⟨c, hhead, hspace, hopen, hclose⟩ := hhead
  obtain ⟨rest, ht⟩ := List.head?_eq_some_iff.mp hhead
  refine ⟨hbreak, ?_, ?_⟩ <;> simp [BraceRow, ht, hspace, hopen, hclose]

/-- A text is plain when it ends with a semicolon. -/
theorem ended (hbreak : Unbroken t) : PlainText (t ++ ";") := by
  have hbrace : ∀ brace, BraceRow brace (t ++ ";").toList → brace = ';' := by
    intro brace hrow
    obtain ⟨spaces, hspaces⟩ := List.dropWhile_suffix (· = ' ') (l := (t ++ ";").toList)
    have hlast : (t ++ ";").toList.getLast? = some ';' := by simp
    rw [← hspaces, hrow, List.getLast?_concat] at hlast
    exact Option.some.inj hlast
  refine ⟨Text.unbroken_append.mpr ⟨hbreak, by decide⟩, fun hrow => ?_, fun hrow => ?_⟩
  · exact absurd (hbrace _ hrow) (by decide)
  · exact absurd (hbrace _ hrow) (by decide)

end PlainText

namespace Layout

variable {t : String}

theorem toList_indented (d : Nat) (t : String) : (indented d t).toList =
    if t = "" then [] else List.replicate (2 * d) ' ' ++ t.toList := by
  rw [indented]
  by_cases ht : t = "" <;> simp [ht]

theorem indentedTo_indented (d : Nat) (t : String) : IndentedTo d (indented d t).toList := by
  intro hne
  rw [toList_indented] at hne ⊢
  split_ifs at hne ⊢ with ht
  · exact absurd rfl hne
  · exact List.prefix_append _ _

theorem braceRow_indented {brace : Char} (d : Nat) (t : String) :
    BraceRow brace (indented d t).toList ↔ BraceRow brace t.toList := by
  rw [toList_indented]
  split_ifs with ht
  · rw [ht]
    rfl
  · rw [BraceRow, BraceRow, List.dropWhile_append_of_pos fun c hc => by
      simpa using (List.eq_of_mem_replicate hc)]

theorem rows_indented (d : Nat) (h : Unbroken t) :
    rows isFeed (indented d t) = [(indented d t).toList] := by
  refine Unbroken.rows ?_
  rw [Unbroken, toList_indented]
  split_ifs
  · exact List.not_mem_nil
  · simpa [Unbroken] using h

variable (d : Nat)

theorem nests_plain (h : PlainText t) : Nests d (rows isFeed (indented d t)) d := by
  rw [rows_indented d h.unbroken]
  have hopens := mt (braceRow_indented d t).mp h.not_opens
  have hcloses := mt (braceRow_indented d t).mp h.not_closes
  exact .stays hopens hcloses (indentedTo_indented d t) (.done d)

theorem nests_opening : Nests d (rows isFeed (indented d "\x7b")) (d + 1) := by
  rw [rows_indented d (by decide)]
  exact .opens ((braceRow_indented d _).mpr (by decide)) (indentedTo_indented d _) (.done (d + 1))

theorem nests_closing : Nests (d + 1) (rows isFeed (indented d "\x7d")) d := by
  rw [rows_indented d (by decide)]
  exact .closes ((braceRow_indented d _).mpr (by decide)) (indentedTo_indented d _) (.done d)

end Layout

namespace Code

theorem allLinesAt_append (depth : Nat) (cs ds : List Code) :
    allLinesAt depth (cs ++ ds) = allLinesAt depth cs ++ allLinesAt depth ds := by
  induction cs with
  | nil => rfl
  | cons c cs ih => rw [List.cons_append, allLinesAt, allLinesAt, ih, List.append_assoc]

theorem allLinesAt_map_line (depth : Nat) (ts : List String) :
    allLinesAt depth (ts.map .line) = ts.map (Layout.indented depth) := by
  induction ts with
  | nil => rfl
  | cons t ts ih =>
      rw [List.map_cons, allLinesAt, linesAt, ih, List.map_cons, List.singleton_append]

theorem linesAt_isInfix_of_mem {depth : Nat} {c : Code} {cs : List Code} (h : c ∈ cs) :
    linesAt depth c <:+: allLinesAt depth cs := by
  obtain ⟨before, after, rfl⟩ := List.append_of_mem h
  rw [allLinesAt_append, allLinesAt]
  exact ⟨_, _, (List.append_assoc ..)⟩

theorem allLinesAt_isInfix_block (depth : Nat) (header : String) (body : List Code) :
    allLinesAt (depth + 1) body <:+: linesAt depth (.block header body) := by
  rw [linesAt]
  exact ⟨[_, _], [_], rfl⟩

theorem linesAt_isInfix_class {opening body : List Code} {header : String} {c : Code}
    (h : c ∈ body) : linesAt 1 c <:+: allLinesAt 0 (opening ++ [.block header body]) := by
  have hblock : linesAt 0 (.block header body) <:+:
      allLinesAt 0 (opening ++ [.block header body]) := linesAt_isInfix_of_mem (by simp)
  exact (linesAt_isInfix_of_mem h).trans ((allLinesAt_isInfix_block 0 header body).trans hblock)

/-- A source begins with its first line. -/
theorem exists_text_cons (t : String) (cs : List Code) :
    ∃ rest, text (.line t :: cs) = Layout.indented 0 t ++ rest := by
  rw [text_eq, allLinesAt, linesAt, List.singleton_append, Text.joinLines]
  cases allLinesAt 0 cs with
  | nil => exact ⟨"", by rw [String.intercalate_singleton, String.append_empty]⟩
  | cons line lines =>
      rw [String.intercalate_cons_cons, String.append_assoc]
      exact ⟨_, rfl⟩

/-! ### Nesting -/

/-- Code in which every line and every header is plain. -/
inductive Plain : Code → Prop
  | line {t : String} (text : PlainText t) : Plain (.line t)
  | block {header : String} {body : List Code} (text : PlainText header)
    (inside : ∀ c ∈ body, Plain c) : Plain (.block header body)

@[simp] theorem plain_line_iff {t : String} : Plain (.line t) ↔ PlainText t := by
  constructor
  · rintro ⟨text⟩
    exact text
  · exact .line

@[simp] theorem plain_block_iff {header : String} {body : List Code} :
    Plain (.block header body) ↔ PlainText header ∧ ∀ c ∈ body, Plain c := by
  constructor
  · rintro (_ | ⟨text, inside⟩)
    exact ⟨text, inside⟩
  · rintro ⟨text, inside⟩
    exact .block text inside

@[simp] theorem plain_blank : Plain blank := .line (by decide)

theorem nests_allLinesAt_of_forall {cs : List Code} {d : Nat}
    (h : ∀ c ∈ cs, Nests d ((linesAt d c).flatMap (rows isFeed)) d) :
    Nests d ((allLinesAt d cs).flatMap (rows isFeed)) d := by
  induction cs with
  | nil => exact .done d
  | cons c rest ih =>
      obtain ⟨hc, hrest⟩ := List.forall_mem_cons.mp h
      rw [allLinesAt, List.flatMap_append]
      exact hc.append (ih hrest)

/-- Plain code ends at the depth that it begins at. -/
theorem Plain.nests {c : Code} (h : c.Plain) (d : Nat) :
    Nests d ((linesAt d c).flatMap (rows isFeed)) d := by
  induction h generalizing d with
  | line text =>
      rw [linesAt, List.flatMap_singleton]
      exact Layout.nests_plain d text
  | block text _ ih =>
      have hinside := nests_allLinesAt_of_forall fun c hc => ih c hc (d + 1)
      rw [linesAt, List.cons_append, List.cons_append, List.flatMap_cons, List.flatMap_cons,
        List.flatMap_append, List.flatMap_singleton]
      exact (Layout.nests_plain d text).append
        ((Layout.nests_opening d).append (hinside.append (Layout.nests_closing d)))

end Code

/-- The rows of a text nest, and it ends with a closing brace that has the last row to itself. -/
structure LaidOut (text : String) : Prop where
  nests : Nests 0 (rows isFeed text) 0
  last : (rows isFeed text).getLast? = some ['\x7d']
  unended : text.toList.getLast? ≠ some '\n'

/-- Nothing stands in the last row of a text that ends with a line feed. -/
theorem Text.getLast?_rows_of_ended {text : String} (h : text.toList.getLast? = some '\n') :
    (rows isFeed text).getLast? = some [] := by
  obtain ⟨before, hbefore⟩ := List.getLast?_eq_some_iff.mp h
  rw [rows, hbefore, List.splitOnP_append_cons before [] rfl, List.splitOnP_nil,
    List.getLast?_concat]

namespace Code

theorem rows_text {ends : Char → Bool} (hfeed : ends '\n' = true) {cs : List Code}
    (h : allLinesAt 0 cs ≠ []) : rows ends (text cs) = (allLinesAt 0 cs).flatMap (rows ends) := by
  rw [text_eq, Text.rows_joinLines hfeed h]

theorem exists_allLinesAt_block (cs : List Code) (header : String) (body : List Code) :
    ∃ above, allLinesAt 0 (cs ++ [.block header body]) = above ++ ["\x7d"] := by
  rw [allLinesAt_append, allLinesAt, allLinesAt, List.append_nil, linesAt, ← List.append_assoc]
  exact ⟨_, rfl⟩

/-- Code that ends with a block is laid out. -/
theorem laidOut_text {cs : List Code} {header : String} {body : List Code}
    (hlast : cs.getLast? = some (.block header body)) (h : ∀ c ∈ cs, c.Plain) :
    LaidOut (text cs) := by
  have hnests := nests_allLinesAt_of_forall fun c hc => (h c hc).nests 0
  obtain ⟨before, rfl⟩ := List.getLast?_eq_some_iff.mp hlast
  obtain ⟨above, habove⟩ := exists_allLinesAt_block before header body
  have hrows : rows isFeed (text (before ++ [.block header body])) =
      (allLinesAt 0 (before ++ [.block header body])).flatMap (rows isFeed) :=
    rows_text rfl (by simp [habove])
  have hclosing : (rows isFeed (text (before ++ [.block header body]))).getLast? =
      some ['\x7d'] := by
    rw [hrows, habove, List.flatMap_append, List.flatMap_singleton,
      Unbroken.rows (s := "\x7d") (by decide)]
    exact List.getLast?_concat
  refine ⟨hrows ▸ hnests, hclosing, fun hended => ?_⟩
  rw [Text.getLast?_rows_of_ended hended] at hclosing
  cases hclosing

end Code

end Blueprint
