import Blueprint.Proofs.Terminal.Panel
import Blueprint.Proofs.Terminal.Solid
import Blueprint.Terminal.Block

/-!
# Color and layout

A draft is a panel before it is known how it will look. With its escape sequences taken out, the
panel that is drafted for color is the one without color exactly when the lines it was cut into
are, and they are when all colored texts are solid. Summaries, framed errors and headers color
nothing else, so color never changes their layout.
-/

namespace Blueprint.Terminal

open Text (Unbroken)

def Markup.EscapeFree (m : Markup) : Prop := ∀ p ∈ m, p.EscapeFree

def Markup.Solid (m : Markup) : Prop := ∀ p ∈ m, p.Solid

/-- A panel as it is put together: its title, and the texts that are added to it with an empty line
where there is none. -/
structure Draft where
  title : Option Markup
  lines : List (Option Markup)
  tone : Tone

namespace Draft

def addTo (look : Look) (p : Panel) : Option Markup → Panel
  | some m => p.add (m.render look)
  | none => p.addEmpty

def panel (d : Draft) (look : Look) : Panel :=
  d.lines.foldl (addTo look) ⟨d.title.map (Markup.render look), [], d.tone⟩

/-- The lines of a panel that one step adds. -/
def shown (look : Look) : Option Markup → List String
  | some m => Text.lines (m.render look)
  | none => [""]

structure EscapeFree (d : Draft) : Prop where
  title : ∀ m ∈ d.title, m.EscapeFree
  lines : ∀ line ∈ d.lines, ∀ m ∈ line, m.EscapeFree

/-- No colored text in the lines can take part in how they are cut. -/
def Solid (d : Draft) : Prop := ∀ line ∈ d.lines, ∀ m ∈ line, m.Solid

variable {d : Draft} {look : Look}

theorem foldl_addTo (lines : List (Option Markup)) (p : Panel) :
    lines.foldl (addTo look) p =
      ⟨p.title, p.content ++ lines.flatMap (shown look), p.tone⟩ := by
  induction lines generalizing p with
  | nil => rw [List.foldl_nil, List.flatMap_nil, List.append_nil]
  | cons line lines ih =>
      rw [List.foldl_cons, ih, List.flatMap_cons, ← List.append_assoc]
      cases line <;> rfl

theorem panel_eq :
    d.panel look = ⟨d.title.map (Markup.render look), d.lines.flatMap (shown look), d.tone⟩ := by
  rw [panel, foldl_addTo, List.nil_append]

section Color

variable (ink : Ink) (unicode : Bool)

theorem grown_shown {line : Option Markup} (h : ∀ m ∈ line, m.EscapeFree) :
    Grown (shown ⟨ink, unicode⟩ line) (shown ⟨.plain, unicode⟩ line) := by
  cases line with
  | none => exact .same colors_empty .nil
  | some m => exact (Markup.colors_render ink unicode (h m rfl)).grown_lines

theorem grown_content (h : d.EscapeFree) :
    Grown (d.panel ⟨ink, unicode⟩).content (d.panel ⟨.plain, unicode⟩).content := by
  rw [panel_eq, panel_eq]
  have hlines := h.lines
  generalize d.lines = lines at hlines ⊢
  induction lines with
  | nil => exact .nil
  | cons line lines ih =>
      obtain ⟨hline, hlines⟩ := List.forall_mem_cons.mp hlines
      exact (grown_shown ink unicode hline).append (ih hlines)

theorem colors_rows (h : d.EscapeFree) :
    ∀ l ∈ (d.panel ⟨ink, unicode⟩).rows, Colors l (stripEscapes l) := by
  refine List.forall_mem_append.mpr ⟨?_, (grown_content ink unicode h).colors⟩
  rw [panel_eq]
  cases htitle : d.title with
  | none => exact List.forall_mem_nil _
  | some m =>
      have hm := Markup.colors_render ink unicode (h.title m htitle)
      exact List.forall_mem_singleton.mpr (hm.stripEscapes.symm ▸ hm)

theorem title_stripped (h : d.EscapeFree) :
    (d.panel ⟨ink, unicode⟩).stripped.title = (d.panel ⟨.plain, unicode⟩).title := by
  rw [Panel.stripped, panel_eq, panel_eq]
  cases htitle : d.title with
  | none => rfl
  | some m =>
      exact congrArg some (Markup.colors_render ink unicode (h.title m htitle)).stripEscapes

/-- The escape sequences are all that color puts into a panel, as long as it has the same lines. -/
theorem stripEscapes_render_iff (h : d.EscapeFree) :
    stripEscapes ((d.panel ⟨ink, unicode⟩).render ⟨ink, unicode⟩) =
        (d.panel ⟨.plain, unicode⟩).render ⟨.plain, unicode⟩ ↔
      (d.panel ⟨ink, unicode⟩).content.map stripEscapes = (d.panel ⟨.plain, unicode⟩).content := by
  have hrender := (Panel.colors_render ink unicode (colors_rows ink unicode h)).stripEscapes
  have htitle := title_stripped ink unicode h
  rw [hrender]
  constructor
  · intro heq
    rcases (grown_content ink unicode h).eq_or_lt with hcontent | hlt
    · exact hcontent
    · have hends := congrArg lineEnds heq
      rw [Panel.lineEnds_render_plain, Panel.lineEnds_render_plain, Panel.rows, Panel.rows,
        weight_append, weight_append, htitle] at hends
      simp only [Panel.stripped] at hends
      omega
  · intro hcontent
    have hpanel : (d.panel ⟨ink, unicode⟩).stripped = d.panel ⟨.plain, unicode⟩ := by
      have htone : (d.panel ⟨ink, unicode⟩).tone = (d.panel ⟨.plain, unicode⟩).tone := by
        rw [panel_eq, panel_eq]
      rw [Panel.stripped] at htitle ⊢
      simp only at htitle
      rw [htitle, hcontent, htone]
    rw [hpanel]

theorem content_of_solid (h : d.EscapeFree) (hsolid : d.Solid) :
    (d.panel ⟨ink, unicode⟩).content.map stripEscapes = (d.panel ⟨.plain, unicode⟩).content := by
  rw [panel_eq, panel_eq, List.map_flatMap]
  refine List.flatMap_congr fun line hline => ?_
  cases line with
  | none => exact congrArg (· :: []) colors_empty.stripEscapes
  | some m =>
      exact Markup.lines_render ink unicode (h.lines _ hline m rfl) (hsolid _ hline m rfl)

end Color

theorem laidOut (h : ∀ t ∈ (d.panel look).title, Unbroken t) : (d.panel look).LaidOut look := by
  refine Panel.laidOut (List.forall_mem_append.mpr ⟨?_, ?_⟩)
  · exact fun t ht => h t (Option.mem_toList.mp ht)
  · rw [panel_eq]
    intro l hl
    obtain ⟨line, -, hl⟩ := List.mem_flatMap.mp hl
    cases line with
    | none => exact List.mem_singleton.mp hl ▸ List.not_mem_nil
    | some m => exact Text.unbroken_of_mem_lines hl

def render (d : Draft) (look : Look) : String := (d.panel look).render look

theorem stripEscapes_render (ink : Ink) (unicode : Bool) (h : d.EscapeFree) (hsolid : d.Solid) :
    stripEscapes (d.render ⟨ink, unicode⟩) = d.render ⟨.plain, unicode⟩ :=
  (stripEscapes_render_iff ink unicode h).mpr (content_of_solid ink unicode h hsolid)

end Draft

/-! ### Blocks -/

theorem EscapeFree.append {s t : String} (hs : EscapeFree s) (ht : EscapeFree t) :
    EscapeFree (s ++ t) :=
  ((Colors.self hs).append (.self ht)).escapeFree

theorem escapeFree_toString (n : Nat) : EscapeFree (toString n) := by
  intro hescape
  have hmem : '\x1b' ∈ Nat.toDigits 10 n := by simpa [Nat.repr] using hescape
  exact absurd (Nat.isDigit_of_mem_toDigits (by decide) (by decide) hmem) (by decide)

namespace Summary

def warningLines (warnings : List String) : List (Option Markup) :=
  if warnings.isEmpty then []
  else none :: warnings.map fun w => some [.icon .warning, .text " ", .text w]

def nextLines : Option String → List (Option Markup)
  | none => []
  | some next =>
    [none, some [.icon .arrow, .text " ", .styled ⟨"Next:", .dim, false⟩, .text " ", .text next]]

def draft (s : Summary) : Draft where
  title := some [.icon s.outcome.icon, .text " ", .styled ⟨s.title, s.outcome.tone, true⟩]
  lines := none :: s.stats.map (fun (label, n) => some [.text s!"{n} {label}"]) ++
    (warningLines s.warnings ++ nextLines s.next)
  tone := s.outcome.tone

/-- No escape sequence begins in the texts of a summary. -/
structure EscapeFree (s : Summary) : Prop where
  title : Terminal.EscapeFree s.title
  stats : ∀ stat ∈ s.stats, Terminal.EscapeFree stat.1
  warnings : ∀ w ∈ s.warnings, Terminal.EscapeFree w
  next : ∀ next ∈ s.next, Terminal.EscapeFree next

variable (look : Look)

theorem foldl_warningLines (warnings : List String) (p : Panel) :
    (warningLines warnings).foldl (Draft.addTo look) p =
      if warnings.isEmpty then p else
        warnings.foldl (fun p w => p.add (Icon.warning.render look ++ " " ++ w)) p.addEmpty := by
  have hstep (p : Panel) (w : String) :
      Draft.addTo look p (some [.icon .warning, .text " ", .text w]) =
        p.add (Icon.warning.render look ++ " " ++ w) := by
    simp [Draft.addTo, Markup.render, Part.render, String.append_assoc]
  rw [warningLines]
  split_ifs
  · rfl
  · simp only [List.foldl_cons, List.foldl_map, hstep]
    rfl

theorem foldl_nextLines (next : Option String) (p : Panel) :
    (nextLines next).foldl (Draft.addTo look) p =
      match next with
      | none => p
      | some next => p.addEmpty.add
          (Icon.arrow.render look ++ " " ++ paint look.ink .dim "Next:" ++ " " ++ next) := by
  cases next with
  | none => rfl
  | some next =>
      simp [nextLines, Draft.addTo, Markup.render, Part.render, Styled.render,
        String.append_assoc]

theorem draft_panel (s : Summary) : s.draft.panel look = s.panel look := by
  have htitle : Markup.render look
      [.icon s.outcome.icon, .text " ", .styled ⟨s.title, s.outcome.tone, true⟩] =
      s.outcome.icon.render look ++ " " ++ paintBold look.ink s.outcome.tone s.title := by
    simp [Markup.render, Part.render, Styled.render, String.append_assoc]
  have hstat (p : Panel) (stat : String × Nat) :
      Draft.addTo look p (some [.text s!"{stat.2} {stat.1}"]) = p.add s!"{stat.2} {stat.1}" := by
    simp [Draft.addTo, Markup.render, Part.render]
  simp only [draft, Draft.panel, List.foldl_append, List.foldl_cons, List.foldl_map, hstat,
    Option.map_some, htitle, foldl_warningLines, foldl_nextLines]
  rfl

variable {s : Summary}

/-- What holds of an empty line and of the three kinds of lines holds of all. -/
theorem forall_draft_lines {P : Option Markup → Prop} (hnone : P none)
    (hstats : ∀ stat ∈ s.stats, P (some [.text s!"{stat.2} {stat.1}"]))
    (hwarnings : ∀ w ∈ s.warnings, P (some [.icon .warning, .text " ", .text w]))
    (hnext : ∀ next ∈ s.next, P (some [.icon .arrow, .text " ", .styled ⟨"Next:", .dim, false⟩,
      .text " ", .text next])) :
    ∀ line ∈ s.draft.lines, P line := by
  refine List.forall_mem_append.mpr ⟨List.forall_mem_cons.mpr ⟨hnone, ?_⟩, ?_⟩
  · exact List.forall_mem_map.mpr hstats
  · refine List.forall_mem_append.mpr ⟨?_, ?_⟩
    · rw [warningLines]
      split_ifs
      · exact List.forall_mem_nil _
      · exact List.forall_mem_cons.mpr ⟨hnone, List.forall_mem_map.mpr hwarnings⟩
    · cases hs : s.next with
      | none => exact List.forall_mem_nil _
      | some next =>
          exact List.forall_mem_cons.mpr ⟨hnone, List.forall_mem_singleton.mpr (hnext next hs)⟩

theorem draft_escapeFree (h : s.EscapeFree) : s.draft.EscapeFree where
  title m hm := by
    obtain rfl := Option.mem_some.mp hm
    simpa [Markup.EscapeFree, Part.EscapeFree] using ⟨by decide, h.title⟩
  lines := by
    have hspace : Terminal.EscapeFree " " := by decide
    have hlabel : Terminal.EscapeFree "Next:" := by decide
    refine forall_draft_lines nofun ?_ ?_ ?_
    · rintro ⟨label, n⟩ hstat m hm
      obtain rfl := Option.mem_some.mp hm
      have hstat := ((escapeFree_toString n).append hspace).append (h.stats _ hstat)
      exact List.forall_mem_singleton.mpr hstat
    · intro w hw m hm
      obtain rfl := Option.mem_some.mp hm
      simpa [Markup.EscapeFree, Part.EscapeFree] using ⟨hspace, h.warnings w hw⟩
    · intro next hnext m hm
      obtain rfl := Option.mem_some.mp hm
      simpa [Markup.EscapeFree, Part.EscapeFree] using ⟨hspace, hlabel, hspace, h.next next hnext⟩

theorem draft_solid : s.draft.Solid := by
  have hlabel : Terminal.Solid "Next:" := by decide
  refine forall_draft_lines nofun ?_ ?_ ?_
  · rintro stat - m hm
    obtain rfl := Option.mem_some.mp hm
    simp [Markup.Solid, Part.Solid]
  · rintro w - m hm
    obtain rfl := Option.mem_some.mp hm
    simp [Markup.Solid, Part.Solid]
  · rintro next - m hm
    obtain rfl := Option.mem_some.mp hm
    simpa [Markup.Solid, Part.Solid] using hlabel

theorem stripEscapes_render (ink : Ink) (unicode : Bool) (h : s.EscapeFree) :
    stripEscapes (s.render ⟨ink, unicode⟩) = s.render ⟨.plain, unicode⟩ := by
  rw [render, render, ← draft_panel, ← draft_panel]
  exact Draft.stripEscapes_render ink unicode (draft_escapeFree h) draft_solid

end Summary

namespace ErrorBlock

def draft (e : ErrorBlock) : Draft where
  title := some [.icon .error, .text " ERROR"]
  lines := (e.location.map fun l => some [.text l]).toList ++
    none :: some [.text e.message] ::
      (e.fix.map fun fix => [none, some [.text ("FIX: " ++ fix)]]).getD []
  tone := .error

/-- No escape sequence begins in the texts of a framed error. -/
structure EscapeFree (e : ErrorBlock) : Prop where
  message : Terminal.EscapeFree e.message
  location : ∀ l ∈ e.location, Terminal.EscapeFree l
  fix : ∀ fix ∈ e.fix, Terminal.EscapeFree fix

theorem draft_panel (e : ErrorBlock) (look : Look) : e.draft.panel look = e.panel look := by
  obtain ⟨message, location, fix⟩ := e
  cases location <;> cases fix <;>
    simp [draft, panel, Draft.panel, Draft.addTo, Markup.render, Part.render, Panel.titled]

variable {e : ErrorBlock}

theorem forall_draft_lines {P : Option Markup → Prop} (hnone : P none)
    (hmessage : P (some [.text e.message])) (hlocation : ∀ l ∈ e.location, P (some [.text l]))
    (hfix : ∀ fix ∈ e.fix, P (some [.text ("FIX: " ++ fix)])) : ∀ line ∈ e.draft.lines, P line := by
  obtain ⟨message, location, fix⟩ := e
  cases location <;> cases fix <;> simp_all [draft]

theorem draft_escapeFree (h : e.EscapeFree) : e.draft.EscapeFree where
  title m hm := by
    obtain rfl := Option.mem_some.mp hm
    have herror : Terminal.EscapeFree " ERROR" := by decide
    simpa [Markup.EscapeFree, Part.EscapeFree] using herror
  lines := by
    have hlabel : Terminal.EscapeFree "FIX: " := by decide
    refine forall_draft_lines nofun ?_ ?_ ?_
    · intro m hm
      obtain rfl := Option.mem_some.mp hm
      simpa [Markup.EscapeFree, Part.EscapeFree] using h.message
    · intro l hl m hm
      obtain rfl := Option.mem_some.mp hm
      simpa [Markup.EscapeFree, Part.EscapeFree] using h.location l hl
    · intro fix hfix m hm
      obtain rfl := Option.mem_some.mp hm
      simpa [Markup.EscapeFree, Part.EscapeFree] using hlabel.append (h.fix fix hfix)

theorem draft_solid : e.draft.Solid := by
  refine forall_draft_lines nofun ?_ ?_ ?_
  · intro m hm
    obtain rfl := Option.mem_some.mp hm
    simp [Markup.Solid, Part.Solid]
  · rintro l - m hm
    obtain rfl := Option.mem_some.mp hm
    simp [Markup.Solid, Part.Solid]
  · rintro fix - m hm
    obtain rfl := Option.mem_some.mp hm
    simp [Markup.Solid, Part.Solid]

theorem stripEscapes_render (ink : Ink) (unicode : Bool) (h : e.EscapeFree) :
    stripEscapes (e.render ⟨ink, unicode⟩) = e.render ⟨.plain, unicode⟩ := by
  rw [render, render, ← draft_panel, ← draft_panel]
  exact Draft.stripEscapes_render ink unicode (draft_escapeFree h) draft_solid

end ErrorBlock

namespace Header

/-- No escape sequence begins in the texts of a header. -/
structure EscapeFree (h : Header) : Prop where
  title : Terminal.EscapeFree h.title
  items : ∀ item ∈ h.items, Terminal.EscapeFree item.1 ∧ Terminal.EscapeFree item.2

theorem stripEscapes_render {h : Header} (ink : Ink) (unicode : Bool) (hfree : h.EscapeFree) :
    stripEscapes (h.render ⟨ink, unicode⟩) = h.render ⟨.plain, unicode⟩ := by
  have hspace : Colors " " " " := .self (by decide)
  refine Colors.stripEscapes (Colors.unlines (.cons ?_ ?_))
  · exact ((h.icon.colors_render ink unicode).append hspace).append
      ((Colors.self hfree.title).paintBold ink .info)
  · refine List.forall₂_map_left_iff.mpr (List.forall₂_map_right_iff.mpr ?_)
    refine List.forall₂_same.mpr ?_
    rintro ⟨label, value⟩ hitem
    obtain ⟨hlabel, hvalue⟩ := hfree.items _ hitem
    have hcolon : Colors (label ++ ":") (label ++ ":") := .self (hlabel.append (by decide))
    simp only [paint_plain]
    exact ((hcolon.paint ink .dim).append hspace).append (.self hvalue)

end Header

/-! ### The two runs -/

/-- Color only puts escape sequences into summaries, framed errors and headers, and into a panel
exactly when it has the same lines, as it does when its colored texts are solid. Panels are laid
out whether there is color or not. -/
theorem color_keeps_layout_iff (ink : Ink) (unicode : Bool) :
    (∀ s : Summary, s.EscapeFree →
      stripEscapes (s.render ⟨ink, unicode⟩) = s.render ⟨.plain, unicode⟩) ∧
    (∀ e : ErrorBlock, e.EscapeFree →
      stripEscapes (e.render ⟨ink, unicode⟩) = e.render ⟨.plain, unicode⟩) ∧
    (∀ h : Header, h.EscapeFree →
      stripEscapes (h.render ⟨ink, unicode⟩) = h.render ⟨.plain, unicode⟩) ∧
    (∀ d : Draft, d.EscapeFree →
      (stripEscapes (d.render ⟨ink, unicode⟩) = d.render ⟨.plain, unicode⟩ ↔
        (d.panel ⟨ink, unicode⟩).content.map stripEscapes =
          (d.panel ⟨.plain, unicode⟩).content)) ∧
    (∀ d : Draft, d.EscapeFree → d.Solid →
      stripEscapes (d.render ⟨ink, unicode⟩) = d.render ⟨.plain, unicode⟩) ∧
    ∀ d : Draft, (∀ t ∈ (d.panel ⟨ink, unicode⟩).title, Unbroken t) →
      (d.panel ⟨ink, unicode⟩).LaidOut ⟨ink, unicode⟩ :=
  ⟨fun _ => Summary.stripEscapes_render ink unicode,
    fun _ => ErrorBlock.stripEscapes_render ink unicode,
    fun _ => Header.stripEscapes_render ink unicode,
    fun _ => Draft.stripEscapes_render_iff ink unicode,
    fun _ => Draft.stripEscapes_render ink unicode,
    fun _ => Draft.laidOut⟩

theorem color_keeps_layout_of_check :
    let s : Summary :=
      ⟨.mixed, "Check passed", [("warnings", 2)], ["Ride has no repository"], some "Fix them"⟩
    let e : ErrorBlock := ⟨"project 'rides' not found", some "store", none⟩
    let h : Header := ⟨.check, "archlab check", [("Snapshot", "rides.json")]⟩
    let d : Draft :=
      ⟨some [.icon .diff, .text " Diff"], [none, some [.styled ⟨"+ new", .success, true⟩]], .info⟩
    let colored : Look := ⟨.colored, true⟩
    let plain : Look := ⟨.plain, true⟩
    (s.EscapeFree ∧ stripEscapes (s.render colored) = s.render plain) ∧
      (e.EscapeFree ∧ stripEscapes (e.render colored) = e.render plain) ∧
      (h.EscapeFree ∧ stripEscapes (h.render colored) = h.render plain) ∧
      (d.EscapeFree ∧ d.Solid ∧ stripEscapes (d.render colored) = d.render plain) ∧
      (∀ t ∈ (d.panel colored).title, Unbroken t) ∧ (d.panel colored).LaidOut colored := by
  intro s e h d colored plain
  obtain ⟨hsummary, herror, hheader, -, hdraft, hlayout⟩ := color_keeps_layout_iff .colored true
  have hs : s.EscapeFree := ⟨by decide, by decide, by decide, by decide⟩
  have he : e.EscapeFree := ⟨by decide, by decide, by decide⟩
  have hh : h.EscapeFree := ⟨by decide, by decide⟩
  have hd : d.EscapeFree :=
    ⟨by simp [d, Markup.EscapeFree, Part.EscapeFree, EscapeFree],
      by simp [d, Markup.EscapeFree, Part.EscapeFree, EscapeFree]⟩
  have hsolid : d.Solid := by simp [Draft.Solid, d, Markup.Solid, Part.Solid, Solid]
  have htitle : ∀ t ∈ (d.panel colored).title, Unbroken t := by decide
  exact ⟨⟨hs, hsummary s hs⟩, ⟨he, herror e he⟩, ⟨hh, hheader h hh⟩,
    ⟨hd, hsolid, hdraft d hd hsolid⟩, htitle, hlayout d htitle⟩

/-- An empty text is a line of a panel when it is colored, and none when it is not. -/
theorem not_color_keeps_layout_of_empty :
    let d : Draft := ⟨some [.text "T"], [some [.styled ⟨"", .info, false⟩]], .info⟩
    d.EscapeFree ∧ stripEscapes (d.render ⟨.colored, true⟩) ≠ d.render ⟨.plain, true⟩ := by
  intro d
  have hd : d.EscapeFree :=
    ⟨by simp [d, Markup.EscapeFree, Part.EscapeFree, EscapeFree],
      by simp [d, Markup.EscapeFree, Part.EscapeFree, EscapeFree]⟩
  refine ⟨hd, fun heq => ?_⟩
  exact absurd ((Draft.stripEscapes_render_iff .colored true hd).mp heq) (by decide)

end Blueprint.Terminal
