import Blueprint.Proofs.Terminal.Markup
import Blueprint.Proofs.Text.Rows

/-!
# How panels are laid out

The characters of a frame take one column each, so a frame is as wide as its two corners and the
columns between them. Every row is as wide as that, once a row is one row: this takes a title
without line feeds. Without its escape sequences a panel is the panel of its lines without theirs.
-/

namespace Blueprint.Terminal

open Text (Unbroken isFeed)

/-! ### Frames -/

/-- What frames are drawn with. -/
def marks : List Char := "╭╮╰╯─│+-|".toList

theorem marks_narrow {c : Char} (hc : c ∈ marks) : Text.stepWidth c .loose = (1, .loose) := by
  have hall : marks.all (Text.stepWidth · .loose == (1, .loose)) := by decide +kernel
  exact beq_iff_eq.mp (List.all_eq_true.mp hall c hc)

theorem marks_plain {c : Char} (hc : c ∈ marks) : c ≠ '\x1b' ∧ c ≠ '\n' ∧ c ≠ '\r' := by
  have hall : marks.all fun c => c ≠ '\x1b' ∧ c ≠ '\n' ∧ c ≠ '\r' := by decide
  exact of_decide_eq_true (List.all_eq_true.mp hall c hc)

/-- A text that is part of a frame. -/
def Drawn (s : String) : Prop := ∀ c ∈ s.toList, c ∈ marks

instance : DecidablePred Drawn := fun s => List.decidableBAll (· ∈ marks) s.toList

namespace Drawn

variable {s t : String}

theorem append (hs : Drawn s) (ht : Drawn t) : Drawn (s ++ t) := by
  intro c hc
  rw [String.toList_append, List.mem_append] at hc
  exact hc.elim (hs c) (ht c)

theorem escapeFree (h : Drawn s) : EscapeFree s := fun hc => (marks_plain (h _ hc)).1 rfl

theorem unbroken (h : Drawn s) : Unbroken s := fun hc => (marks_plain (h _ hc)).2.1 rfl

theorem lineEnds (h : Drawn s) : lineEnds s = 0 := by
  rw [Terminal.lineEnds, List.countP_eq_zero]
  intro c hc
  simpa using (marks_plain (h c hc)).2

/-- Nothing in a frame joins what comes after it. -/
theorem widthFrom {cs : List Char} (h : ∀ c ∈ cs, c ∈ marks) :
    Text.widthFrom cs = ((cs.length : Int), .loose) := by
  induction cs with
  | nil => rfl
  | cons c cs ih =>
      obtain ⟨hc, hcs⟩ := List.forall_mem_cons.mp h
      simp only [Text.widthFrom, ih hcs, marks_narrow hc]
      rw [List.length_cons, Int.natCast_succ, Int.add_comm]

theorem visibleWidth_paint (h : Drawn s) (ink : Ink) (tone : Tone) :
    visibleWidth (paint ink tone s) = s.length := by
  have hstrip := ((Colors.self h.escapeFree).paint ink tone).stripEscapes
  rw [visibleWidth, hstrip, Text.width, widthFrom h, Int.toNat_natCast, String.length_toList]

end Drawn

theorem toList_repeated (n : Nat) (s : String) :
    (Text.repeated n s).toList = (List.replicate n s.toList).flatten := by
  rw [Text.repeated, String.toList_join, List.flatMap_def, List.map_replicate]

theorem Drawn.repeated {s : String} (h : Drawn s) (n : Nat) : Drawn (Text.repeated n s) := by
  intro c hc
  rw [toList_repeated, List.mem_flatten] at hc
  obtain ⟨cs, hcs, hc⟩ := hc
  exact h c (List.eq_of_mem_replicate hcs ▸ hc)

def Borders.parts (b : Borders) : List String :=
  [b.topLeft, b.topRight, b.bottomLeft, b.bottomRight, b.horizontal, b.vertical]

theorem drawn_parts (unicode : Bool) : ∀ s ∈ (borders unicode).parts, Drawn s ∧ s.length = 1 := by
  cases unicode <;> decide

/-- A border row of a panel, without its color. -/
def ruled (unicode : Bool) (n : Nat) (left right : String) : String :=
  left ++ Text.repeated n (borders unicode).horizontal ++ right

theorem drawn_ruled {unicode : Bool} {left right : String} (n : Nat)
    (hleft : left ∈ (borders unicode).parts) (hright : right ∈ (borders unicode).parts) :
    Drawn (ruled unicode n left right) ∧ (ruled unicode n left right).length = n + 2 := by
  obtain ⟨hleft, hl⟩ := drawn_parts unicode left hleft
  obtain ⟨hright, hr⟩ := drawn_parts unicode right hright
  obtain ⟨hline, hn⟩ := drawn_parts unicode (borders unicode).horizontal (by simp [Borders.parts])
  refine ⟨(hleft.append (hline.repeated n)).append hright, ?_⟩
  have hlength : (Text.repeated n (borders unicode).horizontal).length = n := by
    simp [Text.repeated, hn]
  rw [ruled, String.length_append, String.length_append, hlength, hl, hr]
  omega

theorem drawn_top (unicode : Bool) (n : Nat) :
    Drawn (ruled unicode n (borders unicode).topLeft (borders unicode).topRight) ∧
      (ruled unicode n (borders unicode).topLeft (borders unicode).topRight).length = n + 2 :=
  drawn_ruled n (.head _) (.tail _ (.head _))

theorem drawn_bottom (unicode : Bool) (n : Nat) :
    Drawn (ruled unicode n (borders unicode).bottomLeft (borders unicode).bottomRight) ∧
      (ruled unicode n (borders unicode).bottomLeft (borders unicode).bottomRight).length =
        n + 2 :=
  drawn_ruled n (.tail _ (.tail _ (.head _))) (.tail _ (.tail _ (.tail _ (.head _))))

theorem drawn_vertical (unicode : Bool) :
    Drawn (borders unicode).vertical ∧ (borders unicode).vertical.length = 1 :=
  drawn_parts unicode _ (by simp [Borders.parts])

/-! ### Widths -/

namespace Panel

variable (p : Panel) (look : Look)

def top : String := p.frame look (borders look.unicode).topLeft (borders look.unicode).topRight

def bottom : String :=
  p.frame look (borders look.unicode).bottomLeft (borders look.unicode).bottomRight

def side : String := paint look.ink p.tone (borders look.unicode).vertical

/-- The spaces between a line and the border on its right. -/
def padding (line : String) : Nat := p.innerWidth - 1 - visibleWidth line

theorem render_eq :
    p.render look = Text.unlines (p.top look :: p.rows.map (p.row look) ++ [p.bottom look]) :=
  rfl

theorem row_eq (line : String) :
    p.row look line =
      p.side look ++ " " ++ line ++ Text.spaces (p.padding line) ++ p.side look :=
  rfl

theorem visibleWidth_top : visibleWidth (p.top look) = p.innerWidth + 2 := by
  obtain ⟨hdrawn, hlength⟩ := drawn_top look.unicode p.innerWidth
  rw [← hlength]
  exact hdrawn.visibleWidth_paint look.ink p.tone

theorem visibleWidth_bottom : visibleWidth (p.bottom look) = p.innerWidth + 2 := by
  obtain ⟨hdrawn, hlength⟩ := drawn_bottom look.unicode p.innerWidth
  rw [← hlength]
  exact hdrawn.visibleWidth_paint look.ink p.tone

theorem visibleWidth_side : visibleWidth (p.side look) = 1 := by
  obtain ⟨hdrawn, hlength⟩ := drawn_vertical look.unicode
  rw [← hlength]
  exact hdrawn.visibleWidth_paint look.ink p.tone

variable {p look} {line : String}

/-- No line is too wide for the panel, not even with a space on each side. -/
theorem visibleWidth_le (h : line ∈ p.rows) : visibleWidth line + 2 ≤ p.innerWidth := by
  have hmem : visibleWidth line ∈ p.rows.map visibleWidth := List.mem_map_of_mem h
  rw [innerWidth, List.foldl_max]
  exact Nat.add_le_add_right (Nat.le_trans (List.le_max?_getD_of_mem hmem) (Nat.le_max_right _ _)) 2

/-! ### Rows -/

/-- The rows of the text that is written are the borders and one row for each line; nothing
underflows in the padding, and the parts of a row are as wide as the borders. -/
structure LaidOut (p : Panel) (look : Look) : Prop where
  rows : Text.rows isFeed (p.render look) =
    ((p.top look :: p.rows.map (p.row look) ++ [p.bottom look]).map String.toList) ++ [[]]
  fits : ∀ line ∈ p.rows, 1 + visibleWidth line ≤ p.innerWidth
  wide : ∀ line ∈ p.rows,
    visibleWidth (p.side look) + 1 + visibleWidth line + p.padding line +
      visibleWidth (p.side look) = visibleWidth (p.top look) ∧
    visibleWidth (p.bottom look) = visibleWidth (p.top look)

theorem unbroken_paint {s : String} (h : Unbroken s) (ink : Ink) (tone : Tone) :
    Unbroken (paint ink tone s) := by
  have hforeground : Unbroken (ink.foreground tone) := by cases ink <;> cases tone <;> decide
  have hdefault : Unbroken ink.default := by cases ink <;> decide
  rw [paint, Text.unbroken_append, Text.unbroken_append]
  exact ⟨⟨hforeground, h⟩, hdefault⟩

theorem unbroken_spaces (n : Nat) : Unbroken (Text.spaces n) := by
  simp [Unbroken, Text.spaces]

theorem unbroken_row (h : Unbroken line) : Unbroken (p.row look line) := by
  have hside : Unbroken (p.side look) :=
    unbroken_paint (drawn_vertical look.unicode).1.unbroken look.ink p.tone
  simp only [row_eq, Text.unbroken_append]
  exact ⟨⟨⟨⟨hside, by decide⟩, h⟩, unbroken_spaces _⟩, hside⟩

theorem rows_unlines {ls : List String} (h : ∀ l ∈ ls, Unbroken l) :
    Text.rows isFeed (Text.unlines ls) = ls.map String.toList ++ [[]] := by
  induction ls with
  | nil => rfl
  | cons l ls ih =>
      obtain ⟨hl, hls⟩ := List.forall_mem_cons.mp h
      have hcut := @Text.rows_append_of_end isFeed '\n' rfl l (Text.unlines ls)
      rw [Text.unlines_cons, List.map_cons, List.cons_append, ← ih hls]
      exact hcut.trans (by rw [hl.rows]; rfl)

theorem laidOut (h : ∀ line ∈ p.rows, Unbroken line) : p.LaidOut look where
  rows := by
    have htop : Unbroken (p.top look) :=
      unbroken_paint (drawn_top look.unicode p.innerWidth).1.unbroken look.ink p.tone
    have hbottom : Unbroken (p.bottom look) :=
      unbroken_paint (drawn_bottom look.unicode p.innerWidth).1.unbroken look.ink p.tone
    rw [render_eq]
    refine rows_unlines (List.forall_mem_append.mpr ⟨List.forall_mem_cons.mpr ⟨htop, ?_⟩, ?_⟩)
    · exact List.forall_mem_map.mpr fun line hline => unbroken_row (h line hline)
    · exact List.forall_mem_singleton.mpr hbottom
  fits line hline := by
    have hwidth := visibleWidth_le hline
    omega
  wide line hline := by
    have hwidth := visibleWidth_le hline
    rw [visibleWidth_top, visibleWidth_bottom, visibleWidth_side, padding]
    omega

/-! ### Color -/

/-- The panel with the escape sequences taken out of its lines. -/
def stripped (p : Panel) : Panel :=
  ⟨p.title.map stripEscapes, p.content.map stripEscapes, p.tone⟩

theorem rows_stripped : p.stripped.rows = p.rows.map stripEscapes := by
  cases htitle : p.title <;> simp [rows, stripped, htitle]

theorem visibleWidth_stripEscapes {l : String} (h : Colors l (stripEscapes l)) :
    visibleWidth (stripEscapes l) = visibleWidth l := by
  have hself := (Colors.self h.escapeFree).stripEscapes
  rw [visibleWidth, hself, visibleWidth]

variable (ink : Ink) (unicode : Bool)

theorem innerWidth_stripped (h : ∀ l ∈ p.rows, Colors l (stripEscapes l)) :
    p.stripped.innerWidth = p.innerWidth := by
  have hwidths : p.stripped.rows.map visibleWidth = p.rows.map visibleWidth := by
    rw [rows_stripped, List.map_map]
    refine List.map_congr_left fun l hl => ?_
    rw [Function.comp_apply, visibleWidth_stripEscapes (h l hl)]
  rw [innerWidth, innerWidth, hwidths]

theorem colors_row (h : ∀ l ∈ p.rows, Colors l (stripEscapes l)) {l : String} (hl : l ∈ p.rows) :
    Colors (p.row ⟨ink, unicode⟩ l) (p.stripped.row ⟨.plain, unicode⟩ (stripEscapes l)) := by
  have hpadding : p.stripped.padding (stripEscapes l) = p.padding l := by
    rw [padding, padding, innerWidth_stripped h, visibleWidth_stripEscapes (h l hl)]
  have hside : Colors (p.side ⟨ink, unicode⟩) (p.stripped.side ⟨.plain, unicode⟩) := by
    rw [side, side, paint_plain]
    exact (Colors.self (drawn_vertical unicode).1.escapeFree).paint ink p.tone
  have hspaces (n : Nat) : EscapeFree (Text.spaces n) := by simp [EscapeFree, Text.spaces]
  rw [row_eq, row_eq, hpadding]
  exact (((hside.append (.self (by decide))).append (h l hl)).append (.self (hspaces _))).append
    hside

theorem colors_frame (h : ∀ l ∈ p.rows, Colors l (stripEscapes l)) {left right : String}
    (hdrawn : Drawn (ruled unicode p.innerWidth left right)) :
    Colors (p.frame ⟨ink, unicode⟩ left right)
      (p.stripped.frame ⟨.plain, unicode⟩ left right) := by
  rw [frame, frame, paint_plain, innerWidth_stripped h]
  exact (Colors.self hdrawn.escapeFree).paint ink p.tone

theorem colors_render (h : ∀ l ∈ p.rows, Colors l (stripEscapes l)) :
    Colors (p.render ⟨ink, unicode⟩) (p.stripped.render ⟨.plain, unicode⟩) := by
  have htop := colors_frame ink unicode h (drawn_top unicode p.innerWidth).1
  have hbottom := colors_frame ink unicode h (drawn_bottom unicode p.innerWidth).1
  rw [render_eq, render_eq, rows_stripped, List.map_map]
  refine Colors.unlines (List.rel_append (.cons htop ?_) (.cons hbottom .nil))
  refine List.forall₂_map_left_iff.mpr (List.forall₂_map_right_iff.mpr ?_)
  exact List.forall₂_same.mpr fun l hl => colors_row ink unicode h hl

/-! ### Line ends -/

theorem lineEnds_row_plain (line : String) :
    lineEnds (p.row ⟨.plain, unicode⟩ line) = lineEnds line := by
  have hside : lineEnds (p.side ⟨.plain, unicode⟩) = 0 := by
    rw [side, paint_plain, (drawn_vertical unicode).1.lineEnds]
  have hspace : lineEnds " " = 0 := by decide
  have hspaces : lineEnds (Text.spaces (p.padding line)) = 0 := by
    simp [lineEnds, Text.spaces]
  rw [row_eq]
  simp only [lineEnds_append]
  omega

/-- A panel has the line ends of its lines, one for each line and two for its borders. -/
theorem lineEnds_render_plain :
    lineEnds (p.render ⟨.plain, unicode⟩) = weight p.rows + 2 := by
  have htop : lineEnds (p.top ⟨.plain, unicode⟩) = 0 := by
    rw [top, frame, paint_plain]
    exact (drawn_top unicode p.innerWidth).1.lineEnds
  have hbottom : lineEnds (p.bottom ⟨.plain, unicode⟩) = 0 := by
    rw [bottom, frame, paint_plain]
    exact (drawn_bottom unicode p.innerWidth).1.lineEnds
  have hrows := weight_map (lineEnds_row_plain unicode (p := p)) p.rows
  rw [render_eq]
  change weight _ = _
  rw [weight_append, weight_cons, hrows, htop, weight_cons, hbottom, weight_nil]
  omega

end Panel

end Blueprint.Terminal
