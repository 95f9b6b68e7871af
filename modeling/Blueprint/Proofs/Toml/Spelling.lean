import Blueprint.Proofs.Text.Search
import Blueprint.Toml.Complaint
import Blueprint.Toml.Document
import Mathlib.Data.List.TakeWhile

/-!
# How keys are written

A key is written bare, between single quotes, or between double quotes with escapes. Wherever a key
is read, it is written there in one of these ways, on one line.
-/

namespace Blueprint.Toml

open Text (OnLine)

variable {s rest : List Char}

/-! ### Escapes -/

theorem readHex_eq_some {n v w : Nat} (h : readHex n v s = some (w, rest)) :
    ∃ e, s = e ++ rest ∧ OnLine e ∧ readHex n v e = some (w, []) := by
  induction n generalizing v s with
  | zero =>
      cases h
      exact ⟨[], rfl, List.forall_mem_nil _, rfl⟩
  | succ n ih =>
      cases s with
      | nil => cases h
      | cons c s =>
          obtain ⟨d, hd, h⟩ := Option.bind_eq_some_iff.mp h
          obtain ⟨e, rfl, hline, he⟩ := ih h
          refine ⟨c :: e, rfl, List.forall_mem_cons.mpr ⟨?_, hline⟩, ?_⟩
          · constructor <;>
            · rintro rfl
              cases hd
          · rw [readHex, hd]
            exact he

theorem scalarValue?_eq_some {n : Nat} {c : Char} (h : scalarValue? n s = some (c, rest)) :
    ∃ e, s = e ++ rest ∧ OnLine e ∧ scalarValue? n e = some (c, []) := by
  obtain ⟨⟨v, t⟩, hv, h⟩ := Option.bind_eq_some_iff.mp h
  obtain ⟨hvalid, h⟩ := Option.dite_none_right_eq_some.mp h
  cases h
  obtain ⟨e, rfl, hline, he⟩ := readHex_eq_some hv
  refine ⟨e, rfl, hline, ?_⟩
  rw [scalarValue?, he]
  exact dif_pos hvalid

/-- What is taken for an escape would be taken for it alone. -/
theorem readEscape_eq_some {c : Char} (h : readEscape s = some (c, rest)) :
    ∃ e, s = e ++ rest ∧ OnLine e ∧ readEscape e = some (c, []) := by
  have hletter (x : Char) (hx : x ≠ '\n' ∧ x ≠ '\r') {e : List Char} (he : OnLine e) :
      OnLine (x :: e) := List.forall_mem_cons.mpr ⟨hx, he⟩
  have hnil : OnLine [] := List.forall_mem_nil _
  unfold readEscape at h
  split at h
  case h_8 r =>
    obtain ⟨e, rfl, hline, he⟩ := scalarValue?_eq_some h
    exact ⟨'u' :: e, rfl, hletter _ (by decide) hline, he⟩
  case h_9 r =>
    obtain ⟨e, rfl, hline, he⟩ := scalarValue?_eq_some h
    exact ⟨'U' :: e, rfl, hletter _ (by decide) hline, he⟩
  case h_10 => cases h
  all_goals
    cases h
    exact ⟨[_], rfl, hletter _ (by decide) hnil, rfl⟩

/-- What stands between double quotes, and the characters that it stands for. -/
inductive Escaped : List Char → List Char → Prop where
  | nil : Escaped [] []
  | plain {c : Char} {body cs : List Char} (hplain : isCommentChar c = true) (hquote : c ≠ '"')
      (hslash : c ≠ '\\') (htail : Escaped body cs) : Escaped (c :: body) (c :: cs)
  | escape {c : Char} {e body cs : List Char} (he : readEscape e = some (c, []))
      (htail : Escaped body cs) : Escaped ('\\' :: (e ++ body)) (c :: cs)

theorem onLine_of_isCommentChar {c : Char} (h : isCommentChar c = true) : c ≠ '\n' ∧ c ≠ '\r' := by
  constructor <;>
  · rintro rfl
    exact absurd h (by decide)

theorem Escaped.onLine {body cs : List Char} (h : Escaped body cs) : OnLine body := by
  induction h with
  | nil => exact List.forall_mem_nil _
  | plain hplain _ _ _ ih => exact List.forall_mem_cons.mpr ⟨onLine_of_isCommentChar hplain, ih⟩
  | @escape c e body cs he _ ih =>
      obtain ⟨e', heq, hline, -⟩ := readEscape_eq_some he
      rw [List.append_nil] at heq
      refine List.forall_mem_cons.mpr ⟨by decide, ?_⟩
      exact List.forall_mem_append.mpr ⟨heq ▸ hline, ih⟩

theorem readBasic_eq_some {n : Nat} {cs : List Char} (h : readBasic n s = some (cs, rest)) :
    ∃ body, s = body ++ '"' :: rest ∧ Escaped body cs := by
  induction n generalizing s cs with
  | zero => cases h
  | succ n ih =>
      cases s with
      | nil => cases h
      | cons c s =>
          rw [readBasic] at h
          split_ifs at h with hquote hslash hplain
          · cases h
            exact ⟨[], by rw [hquote]; rfl, .nil⟩
          · obtain ⟨⟨d, t⟩, hd, h⟩ := Option.bind_eq_some_iff.mp h
            obtain ⟨⟨ds, t'⟩, hds, h⟩ := Option.bind_eq_some_iff.mp h
            cases h
            obtain ⟨e, rfl, -, he⟩ := readEscape_eq_some hd
            obtain ⟨body, rfl, hbody⟩ := ih hds
            exact ⟨'\\' :: (e ++ body), by rw [hslash]; simp, .escape he hbody⟩
          · obtain ⟨⟨ds, t⟩, hds, h⟩ := Option.bind_eq_some_iff.mp h
            cases h
            obtain ⟨body, rfl, hbody⟩ := ih hds
            exact ⟨c :: body, rfl, .plain hplain hquote hslash hbody⟩

theorem readLiteral_eq_some {cs : List Char} (h : readLiteral s = some (cs, rest)) :
    s = cs ++ '\'' :: rest ∧ ∀ c ∈ cs, isCommentChar c = true ∧ c ≠ '\'' := by
  unfold readLiteral at h
  dsimp only at h
  split at h
  next rest' hdrop =>
    cases h
    refine ⟨?_, fun c hc => ?_⟩
    · rw [← hdrop]
      exact (List.prefix_iff_eq_append.mp (List.takeWhile_prefix _)).symm
    · have hbody := List.mem_takeWhile_imp hc
      rwa [Bool.and_eq_true, bne_iff_ne] at hbody
  next => cases h

/-! ### Keys -/

/-- The ways to write a key with a name. -/
inductive Spells : List Char → List Char → Prop where
  | bare {name : List Char} (hne : name ≠ []) (hbare : ∀ c ∈ name, isBareKeyChar c = true) :
      Spells name name
  | literal {name : List Char} (hname : ∀ c ∈ name, isCommentChar c = true ∧ c ≠ '\'') :
      Spells ('\'' :: (name ++ ['\''])) name
  | basic {body name : List Char} (hbody : Escaped body name) : Spells ('"' :: (body ++ ['"'])) name

namespace Spells

variable {spelling name : List Char}

theorem ne_nil (h : Spells spelling name) : spelling ≠ [] := by
  cases h with
  | bare hne => exact hne
  | literal => exact List.cons_ne_nil _ _
  | basic => exact List.cons_ne_nil _ _

theorem onLine (h : Spells spelling name) : OnLine spelling := by
  have hquoted (q : Char) (hq : q ≠ '\n' ∧ q ≠ '\r') {body : List Char} (hbody : OnLine body) :
      OnLine (q :: (body ++ [q])) :=
    List.forall_mem_cons.mpr ⟨hq, List.forall_mem_append.mpr
      ⟨hbody, List.forall_mem_singleton.mpr hq⟩⟩
  cases h with
  | bare _ hbare =>
      intro c hc
      constructor <;>
      · rintro rfl
        exact absurd (hbare _ hc) (by decide)
  | literal hname =>
      exact hquoted _ (by decide) fun c hc => onLine_of_isCommentChar (hname c hc).1
  | basic hbody => exact hquoted _ (by decide) hbody.onLine

end Spells

/-- Where a part of a text stands. -/
structure Place (text : List Char) where
  before : List Char
  spelling : List Char
  after : List Char
  text_eq : text = before ++ spelling ++ after

namespace Place

variable {text : List Char} (p : Place text)

def span : Span :=
  ⟨Text.byteSize p.before, Text.byteSize (p.before ++ p.spelling)⟩

/-- How many lines end before the part. -/
def row : Nat := p.before.count '\n'

/-- The number of the line that the part is on. -/
def line : Nat := p.row + 1

end Place

/-- A key stands at a place, in one of the ways to write it. -/
structure Key.WrittenAt (key : Key) {text : List Char} (p : Place text) : Prop where
  span : key.span = some p.span
  spells : Spells p.spelling key.name.toList

def Key.Written (text : List Char) (key : Key) : Prop := ∃ p : Place text, key.WrittenAt p

theorem readKey_spells {src : Source} {key : Key} (h : readKey src s = some (key, rest)) :
    ∃ spelling, s = spelling ++ rest ∧ Spells spelling key.name.toList ∧
      key.span = some (src.between s rest) := by
  unfold readKey at h
  split at h
  next after =>
    obtain ⟨⟨cs, t⟩, hcs, h⟩ := Option.map_eq_some_iff.mp h
    cases h
    obtain ⟨body, rfl, hbody⟩ := readBasic_eq_some hcs
    exact ⟨'"' :: (body ++ ['"']), by simp, by simpa using Spells.basic hbody, rfl⟩
  next after =>
    obtain ⟨⟨cs, t⟩, hcs, h⟩ := Option.map_eq_some_iff.mp h
    cases h
    obtain ⟨rfl, hname⟩ := readLiteral_eq_some hcs
    exact ⟨'\'' :: (cs ++ ['\'']), by simp, by simpa using Spells.literal hname, rfl⟩
  next =>
    split at h
    · cases h
    next hne =>
      cases h
      refine ⟨s.takeWhile isBareKeyChar, ?_, ?_, rfl⟩
      · exact (List.prefix_iff_eq_append.mp (List.takeWhile_prefix _)).symm
      · simpa using Spells.bare hne fun c hc => List.mem_takeWhile_imp hc

/-- A key that is read at the end of a text is written there. -/
theorem readKey_written {text : List Char} {src : Source} {key : Key}
    (hsize : src.size = Text.byteSize text) (hs : s <:+ text)
    (h : readKey src s = some (key, rest)) : rest <:+ s ∧ key.Written text := by
  obtain ⟨spelling, rfl, hspells, hspan⟩ := readKey_spells h
  obtain ⟨before, rfl⟩ := hs
  refine ⟨List.suffix_append _ _, ⟨before, spelling, rest, by simp⟩, ?_, hspells⟩
  rw [hspan, Source.between, Place.span, hsize]
  simp only [Text.byteSize_append]
  congr 2 <;> omega

theorem position_fst (before rest : List Char) :
    (Complaint.position (Text.byteSize before) (before ++ rest)).1 = before.count '\n' := by
  induction before with
  | nil =>
      cases rest with
      | nil => rfl
      | cons c rest =>
          unfold Complaint.position
          exact congrArg Prod.fst (if_pos c.utf8Size_pos)
  | cons c before ih =>
      have hpast : ¬ c.utf8Size + Text.byteSize before < c.utf8Size := by omega
      rw [Text.byteSize, List.cons_append]
      unfold Complaint.position
      rw [if_neg hpast, Nat.add_sub_cancel_left]
      generalize Complaint.position (Text.byteSize before) (before ++ rest) = place at ih
      obtain ⟨row, column⟩ := place
      by_cases hc : c = '\n'
      · rw [hc, List.count_cons_self, ← ih]
        rfl
      · rw [List.count_cons_of_ne hc, ← ih]
        split
        next hfeed => exact absurd rfl hc
        next h => exact (congrArg Prod.fst h).symm
        next => rfl

/-- The line of a place is the one that a complaint about it shows. -/
theorem Place.line_eq {text : List Char} (p : Place text) :
    p.line = (Complaint.position p.span.start text).1 + 1 := by
  have h := position_fst p.before (p.spelling ++ p.after)
  rw [← List.append_assoc, ← p.text_eq] at h
  exact congrArg (· + 1) h.symm

theorem Key.WrittenAt.line_eq {text : List Char} {key : Key} {p : Place text} {span : Span}
    (h : key.WrittenAt p) (hspan : key.span = some span) :
    p.line = (Complaint.position span.start text).1 + 1 := by
  rw [p.line_eq, Option.some.inj (h.span.symm.trans hspan)]

end Blueprint.Toml
