import Blueprint.Proofs.Terminal.Markup

/-!
# Lines that color leaves alone

A colored text is `Solid` when it does not begin with a line feed and does not end in anything that
may end a line. Escape sequences around such texts do not change how the text around them is cut
into lines: `Even` says where a sequence may stand.
-/

namespace Blueprint.Terminal

/-- How far two lines that are being read agree: they may differ in more than their sequences later
on, they do not so far, or they do not whatever sequence comes next. -/
inductive Stand where
  | opened
  | level
  | firm
  deriving DecidableEq

def Stand.Holds (a b : List Char) : Stand → Prop
  | .opened => True
  | .level => (b = [] → a = []) ∧ (b.head? = some '\r' → a.head? = some '\r')
  | .firm => b ≠ [] ∧ b.head? ≠ some '\r'

theorem Stand.Holds.level {st : Stand} {a b : List Char} (h : st.Holds a b) (hst : st ≠ .opened) :
    Stand.level.Holds a b := by
  cases st with
  | opened => exact absurd rfl hst
  | level => exact h
  | firm => exact ⟨fun hb => absurd hb h.1, fun hb => absurd hb h.2⟩

/-- `Inked` from where two lines agree that far, and with no sequence that could change lines. -/
inductive Even : Stand → List Char → List Char → Prop where
  | nil {st : Stand} (hst : st ≠ .opened) : Even st [] []
  | feed {st : Stand} {cs ds : List Char} (hst : st ≠ .opened) (h : Even .level cs ds) :
      Even st ('\n' :: cs) ('\n' :: ds)
  | back {st : Stand} {cs ds : List Char} (h : Even .level cs ds) :
      Even st ('\r' :: cs) ('\r' :: ds)
  | char {st : Stand} {c : Char} {cs ds : List Char} (hc : c ≠ '\x1b') (hfeed : c ≠ '\n')
      (hreturn : c ≠ '\r') (h : Even .firm cs ds) : Even st (c :: cs) (c :: ds)
  | opening {st : Stand} {ps cs ds : List Char} (hps : AreParameters ps)
      (h : Even .opened cs ds) : Even st ('\x1b' :: '[' :: (ps ++ 'm' :: cs)) ds
  | closing {ps cs ds : List Char} (hps : AreParameters ps) (h : Even .firm cs ds) :
      Even .firm ('\x1b' :: '[' :: (ps ++ 'm' :: cs)) ds

theorem Held.stripFrom_chompReturn {a b : List Char} (h : Held a b)
    (hlevel : Stand.level.Holds a b) :
    stripFrom .outside (Text.chompReturn a.reverse) = Text.chompReturn b.reverse := by
  rw [chompReturn_reverse, chompReturn_reverse]
  cases h with
  | nil => rfl
  | char hc h =>
      rw [List.head?_cons, List.head?_cons]
      split_ifs
      · exact h.inked.stripFrom
      · exact (h.char hc).inked.stripFrom
  | sequence hps h =>
      rw [if_neg (by simp), if_neg fun hb => absurd (hlevel.2 hb) (by simp)]
      exact (h.sequence hps).inked.stripFrom

theorem Even.linesFrom {st : Stand} {a b cs ds : List Char} (h : Even st cs ds) (hheld : Held a b)
    (hst : st.Holds a b) :
    (Text.linesFrom a cs).map (stripFrom .outside) = Text.linesFrom b ds := by
  induction h generalizing a b with
  | nil hopened =>
      have hline := hheld.inked.stripFrom
      have hempty := (hst.level hopened).1
      cases hheld with
      | nil => rfl
      | char hc hheld => simpa [Text.linesFrom] using hline
      | sequence hps hheld =>
          cases b with
          | nil => exact absurd (hempty rfl) (List.cons_ne_nil _ _)
          | cons d b => simpa [Text.linesFrom] using hline
  | feed hopened _ ih =>
      rw [Text.linesFrom, Text.linesFrom, List.map_cons,
        hheld.stripFrom_chompReturn (hst.level hopened), ih .nil ⟨fun _ => rfl, id⟩]
  | back _ ih => exact ih (hheld.char (by decide)) (by simp [Stand.Holds])
  | char hc hfeed hreturn _ ih =>
      rw [Text.linesFrom, Text.linesFrom]
      · exact ih (hheld.char hc) (by simpa [Stand.Holds] using hreturn)
      · exact hfeed
      · exact hfeed
  | opening hps _ ih =>
      rw [linesFrom_sequence hps]
      exact ih (hheld.sequence hps) trivial
  | closing hps _ ih =>
      rw [linesFrom_sequence hps]
      exact ih (hheld.sequence hps) hst

theorem Even.firm {cs ds : List Char} (h : Even .level cs ds) : Even .firm cs ds := by
  cases h with
  | nil hst => exact .nil (by decide)
  | feed hst h => exact .feed (by decide) h
  | back h => exact .back h
  | char hc hfeed hreturn h => exact .char hc hfeed hreturn h
  | opening hps h => exact .opening hps h

theorem Even.append_self {st : Stand} {ts cs ds : List Char} (hts : '\x1b' ∉ ts)
    (hst : st ≠ .opened) (h : Even .level cs ds) : Even st (ts ++ cs) (ts ++ ds) := by
  induction ts generalizing st with
  | nil =>
      cases st with
      | opened => exact absurd rfl hst
      | level => exact h
      | firm => exact h.firm
  | cons t ts ih =>
      rw [List.mem_cons, not_or] at hts
      by_cases hfeed : t = '\n'
      · exact hfeed ▸ .feed hst (ih hts.2 (by decide))
      · by_cases hreturn : t = '\r'
        · exact hreturn ▸ .back (ih hts.2 (by decide))
        · exact .char (Ne.symm hts.1) hfeed hreturn (ih hts.2 (by decide))

/-- A text that does not begin with a line feed and does not end in what may end a line. -/
def Solid (s : String) : Prop :=
  s.toList ≠ [] ∧ s.toList.head? ≠ some '\n' ∧
    s.toList.getLast? ≠ some '\n' ∧ s.toList.getLast? ≠ some '\r'

instance : DecidablePred Solid := fun _ => inferInstanceAs (Decidable (_ ∧ _))

theorem Even.append_solid {st : Stand} {ts cs ds : List Char} (hts : '\x1b' ∉ ts)
    (hne : ts ≠ []) (hhead : st = .opened → ts.head? ≠ some '\n')
    (hfeed : ts.getLast? ≠ some '\n') (hreturn : ts.getLast? ≠ some '\r')
    (h : Even .firm cs ds) : Even st (ts ++ cs) (ts ++ ds) := by
  induction ts generalizing st with
  | nil => exact absurd rfl hne
  | cons t ts ih =>
      rw [List.mem_cons, not_or] at hts
      cases ts with
      | nil =>
          refine .char (Ne.symm hts.1) ?_ ?_ h
          · simpa using hfeed
          · simpa using hreturn
      | cons u ts =>
          rw [List.getLast?_cons_cons] at hfeed hreturn
          have hrest {st : Stand} (hst : st ≠ .opened) :=
            @ih st hts.2 (List.cons_ne_nil u ts) (absurd · hst) hfeed hreturn
          by_cases ht : t = '\n'
          · subst ht
            have hst : st ≠ .opened := fun hst => hhead hst rfl
            exact .feed hst (hrest (by decide))
          · by_cases ht' : t = '\r'
            · exact ht' ▸ .back (hrest (by decide))
            · exact .char (Ne.symm hts.1) ht ht' (hrest (by decide))

section Render

variable (ink : Ink) (unicode : Bool) {cs ds : List Char} {s : String} {p : Part} {m : Markup}

theorem Even.solid {st : Stand} (hescape : EscapeFree s) (hs : Solid s) (h : Even .firm cs ds) :
    Even st (s.toList ++ cs) (s.toList ++ ds) :=
  append_solid hescape hs.1 (fun _ => hs.2.1) hs.2.2.1 hs.2.2.2 h

theorem Even.escape {st : Stand} (ps : String) (hps : AreParameters ps.toList)
    (h : Even .opened cs ds) : Even st ((escape ps).toList ++ cs) ds := by
  have hsequence : Even st _ _ := .opening hps h
  simpa [Terminal.escape] using hsequence

theorem Even.escape_closing (ps : String) (hps : AreParameters ps.toList)
    (h : Even .firm cs ds) : Even .firm ((Terminal.escape ps).toList ++ cs) ds := by
  have hsequence := Even.closing hps h
  simpa [Terminal.escape] using hsequence

theorem Even.foreground (tone : Tone) (h : ∀ st, Even st cs ds) :
    Even .level ((ink.foreground tone).toList ++ cs) ds := by
  cases ink with
  | plain => exact h .level
  | colored => exact (h .opened).escape ("38;5;" ++ tone.code) (by cases tone <;> decide)
  | muted => exact (h .opened).escape "" (by decide)

theorem Even.default (h : Even .firm cs ds) : Even .firm (ink.default.toList ++ cs) ds := by
  cases ink with
  | plain => exact h
  | colored => exact h.escape_closing "39" (by decide)
  | muted => exact h.escape_closing "" (by decide)

theorem Even.paint (tone : Tone) (hescape : EscapeFree s) (hs : Solid s) (h : Even .level cs ds) :
    Even .level ((paint ink tone s).toList ++ cs) (s.toList ++ ds) := by
  have hpaint := Even.foreground ink tone fun _ => Even.solid hescape hs (h.firm.default ink)
  simpa [Terminal.paint] using hpaint

theorem Even.paintBold (tone : Tone) (hescape : EscapeFree s) (hs : Solid s)
    (h : Even .level cs ds) :
    Even .level ((paintBold ink tone s).toList ++ cs) (s.toList ++ ds) := by
  have hzero : Even .firm ((Terminal.escape "0").toList ++ cs) ds :=
    h.firm.escape_closing "0" (by decide)
  have hbold := Even.foreground ink tone fun _ =>
    (Even.solid hescape hs hzero).escape "1" (by decide)
  cases ink with
  | plain => exact .append_self hescape (by decide) h
  | colored => simpa [Terminal.paintBold] using hbold
  | muted => simpa [Terminal.paintBold] using hbold

def Part.Solid : Part → Prop
  | .text _ => True
  | .icon _ => True
  | .styled s => Terminal.Solid s.text

theorem Even.part (hescape : p.EscapeFree) (hp : p.Solid) (h : Even .level cs ds) :
    Even .level ((p.render ⟨ink, unicode⟩).toList ++ cs)
      ((p.render ⟨.plain, unicode⟩).toList ++ ds) := by
  cases p with
  | text s => exact .append_self hescape (by decide) h
  | icon i =>
      have hsolid : Terminal.Solid (i.text unicode) := by cases i <;> cases unicode <;> decide
      rw [Part.render, Part.render, Icon.render_plain]
      exact h.paint ink i.tone (i.escapeFree_text unicode) hsolid
  | styled s =>
      rw [Part.render, Part.render, Styled.render_plain, Styled.render]
      split_ifs
      · exact h.paintBold ink s.tone hescape hp
      · exact h.paint ink s.tone hescape hp

theorem Even.markup (hescape : ∀ p ∈ m, p.EscapeFree) (hm : ∀ p ∈ m, p.Solid) :
    Even .level (m.render ⟨ink, unicode⟩).toList (m.render ⟨.plain, unicode⟩).toList := by
  induction m with
  | nil => exact .nil (by decide)
  | cons p m ih =>
      obtain ⟨hfree, hescape⟩ := List.forall_mem_cons.mp hescape
      obtain ⟨hp, hm⟩ := List.forall_mem_cons.mp hm
      rw [Markup.render_cons, Markup.render_cons, String.toList_append, String.toList_append]
      exact (ih hescape hm).part ink unicode hfree hp

theorem Markup.lines_render (hescape : ∀ p ∈ m, p.EscapeFree) (hm : ∀ p ∈ m, p.Solid) :
    (Text.lines (m.render ⟨ink, unicode⟩)).map stripEscapes =
      Text.lines (m.render ⟨.plain, unicode⟩) := by
  have hlines := (Even.markup ink unicode hescape hm).linesFrom .nil ⟨fun _ => rfl, id⟩
  rw [Text.lines, Text.lines, ← hlines, List.map_map, List.map_map]
  refine List.map_congr_left fun line _ => ?_
  rw [Function.comp_apply, Function.comp_apply, stripEscapes, String.toList_ofList]

end Render

end Blueprint.Terminal
