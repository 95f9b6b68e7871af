import Blueprint.Proofs.Terminal.Escapes
import Blueprint.Terminal.Icon

/-!
# Lines of colored text

A markup is made of icons, colored texts and texts as they are. With color it is the same text with
escape sequences put in, but it is cut into lines with the sequences in it, and so may have other
lines than without: one more where nothing but a sequence is left at the end, and a carriage return
that is not taken off where a sequence stands between it and its line feed. `Grown` says that this
is all.
-/

namespace Blueprint.Terminal

/-! ### Markup -/

inductive Part where
  | text (s : String)
  | icon (i : Icon)
  | styled (s : Styled)
  deriving DecidableEq

namespace Part

def render (look : Look) : Part → String
  | .text s => s
  | .icon i => i.render look
  | .styled s => s.render look.ink

def EscapeFree : Part → Prop
  | .text s => Terminal.EscapeFree s
  | .icon _ => True
  | .styled s => Terminal.EscapeFree s.text

end Part

abbrev Markup := List Part

def Markup.render (look : Look) (m : Markup) : String := String.join (m.map (Part.render look))

theorem Markup.render_cons (look : Look) (p : Part) (m : Markup) :
    Markup.render look (p :: m) = p.render look ++ Markup.render look m := by
  simp [Markup.render]

section Colors

variable (ink : Ink) (unicode : Bool)

theorem paint_plain (tone : Tone) (s : String) : paint .plain tone s = s := by
  simp [paint, Ink.foreground, Ink.default]

theorem Icon.escapeFree_text (i : Icon) : EscapeFree (i.text unicode) := by
  cases i <;> cases unicode <;> decide

theorem Icon.render_plain (i : Icon) : i.render ⟨.plain, unicode⟩ = i.text unicode :=
  paint_plain i.tone (i.text unicode)

theorem Icon.colors_render (i : Icon) :
    Colors (i.render ⟨ink, unicode⟩) (i.render ⟨.plain, unicode⟩) := by
  rw [Icon.render_plain]
  exact (Colors.self (i.escapeFree_text unicode)).paint ink i.tone

theorem Styled.render_plain (s : Styled) : s.render .plain = s.text := by
  rw [Styled.render, paint_plain]
  exact ite_id s.text

theorem Styled.colors_render {s : Styled} (h : EscapeFree s.text) :
    Colors (s.render ink) (s.render .plain) := by
  rw [Styled.render_plain, Styled.render]
  split_ifs
  · exact (Colors.self h).paintBold ink s.tone
  · exact (Colors.self h).paint ink s.tone

theorem Part.colors_render {p : Part} (h : p.EscapeFree) :
    Colors (p.render ⟨ink, unicode⟩) (p.render ⟨.plain, unicode⟩) := by
  cases p with
  | text s => exact .self h
  | icon i => exact i.colors_render ink unicode
  | styled s => exact Styled.colors_render ink h

theorem Markup.colors_render {m : Markup} (h : ∀ p ∈ m, p.EscapeFree) :
    Colors (m.render ⟨ink, unicode⟩) (m.render ⟨.plain, unicode⟩) := by
  induction m with
  | nil => exact colors_empty
  | cons p m ih =>
      obtain ⟨hp, hm⟩ := List.forall_mem_cons.mp h
      rw [Markup.render_cons, Markup.render_cons]
      exact (Part.colors_render ink unicode hp).append (ih hm)

end Colors

/-! ### The current line -/

/-- `Inked` for lines that are held back to front while they are read. -/
inductive Held : List Char → List Char → Prop where
  | nil : Held [] []
  | char {c : Char} {a b : List Char} (hc : c ≠ '\x1b') (h : Held a b) : Held (c :: a) (c :: b)
  | sequence {ps a b : List Char} (hps : AreParameters ps) (h : Held a b) :
      Held ('m' :: (ps.reverse ++ '[' :: '\x1b' :: a)) b

theorem Held.inked {a b : List Char} (h : Held a b) : Inked a.reverse b.reverse := by
  induction h with
  | nil => exact .nil
  | char hc _ ih =>
      rw [List.reverse_cons, List.reverse_cons]
      exact ih.append (.char hc .nil)
  | sequence hps _ ih =>
      have hsequence := ih.append (.sequence hps .nil)
      simpa using hsequence

/-- A sequence is read into the current line. -/
theorem linesFrom_sequence {ps : List Char} (hps : AreParameters ps) (a cs : List Char) :
    Text.linesFrom a ('\x1b' :: '[' :: (ps ++ 'm' :: cs)) =
      Text.linesFrom ('m' :: (ps.reverse ++ '[' :: '\x1b' :: a)) cs := by
  have hfeed : '\n' ∉ '\x1b' :: '[' :: (ps ++ ['m']) := by
    have hmem : '\n' ∉ ps := fun h => (hps _ h).2 rfl
    simp [hmem]
  have hread := Text.linesFrom_append_of_notMem hfeed a cs
  simpa using hread

/-! ### What color may do to lines -/

/-- The first lines are the others with escape sequences put in, and some lines that show nothing
or keep a carriage return. -/
inductive Grown : List String → List String → Prop where
  | nil : Grown [] []
  | same {k l : String} {ks ls : List String} (hk : Colors k l) (h : Grown ks ls) :
      Grown (k :: ks) (l :: ls)
  | returned {k l : String} {ks ls : List String} (hk : Colors k (l ++ "\r")) (h : Grown ks ls) :
      Grown (k :: ks) (l :: ls)
  | added {k : String} {ks ls : List String} (hk : Colors k "") (h : Grown ks ls) :
      Grown (k :: ks) ls

namespace Grown

variable {ks ls ms ns : List String}

theorem append (h : Grown ks ls) (h' : Grown ms ns) : Grown (ks ++ ms) (ls ++ ns) := by
  induction h with
  | nil => exact h'
  | same hk _ ih => exact .same hk ih
  | returned hk _ ih => exact .returned hk ih
  | added hk _ ih => exact .added hk ih

theorem colors (h : Grown ks ls) : ∀ k ∈ ks, Colors k (stripEscapes k) := by
  induction h with
  | nil => exact List.forall_mem_nil _
  | same hk _ ih => exact List.forall_mem_cons.mpr ⟨hk.stripEscapes ▸ hk, ih⟩
  | returned hk _ ih => exact List.forall_mem_cons.mpr ⟨hk.stripEscapes ▸ hk, ih⟩
  | added hk _ ih => exact List.forall_mem_cons.mpr ⟨hk.stripEscapes ▸ hk, ih⟩

end Grown

/-- How many line feeds and carriage returns a text has. -/
def lineEnds (s : String) : Nat := s.toList.countP fun c => c = '\n' ∨ c = '\r'

@[simp] theorem lineEnds_append (s t : String) : lineEnds (s ++ t) = lineEnds s + lineEnds t := by
  simp [lineEnds]

/-- How many line ends there are when each of the lines is ended. -/
def weight (ls : List String) : Nat := lineEnds (Text.unlines ls)

@[simp] theorem weight_nil : weight [] = 0 := rfl

@[simp] theorem weight_cons (l : String) (ls : List String) :
    weight (l :: ls) = lineEnds l + 1 + weight ls := by
  rw [weight, Text.unlines_cons, lineEnds_append, lineEnds_append]
  rfl

@[simp] theorem weight_append (ls ms : List String) :
    weight (ls ++ ms) = weight ls + weight ms := by
  rw [weight, Text.unlines_append, lineEnds_append, weight, weight]

theorem weight_map {f : String → String} (hf : ∀ l, lineEnds (f l) = lineEnds l)
    (ls : List String) : weight (ls.map f) = weight ls := by
  induction ls with
  | nil => rfl
  | cons l ls ih => rw [List.map_cons, weight_cons, weight_cons, hf, ih]

/-- Every line that is not as it was without color brings a line end more. -/
theorem Grown.eq_or_lt {ks ls : List String} (h : Grown ks ls) :
    ks.map stripEscapes = ls ∨ weight ls < weight (ks.map stripEscapes) := by
  induction h with
  | nil => exact .inl rfl
  | same hk _ ih =>
      rw [List.map_cons, hk.stripEscapes, weight_cons, weight_cons]
      rcases ih with heq | hlt
      · exact .inl (by rw [heq])
      · exact .inr (by omega)
  | returned hk _ ih =>
      have hreturn : lineEnds "\r" = 1 := by decide
      rw [List.map_cons, hk.stripEscapes, weight_cons, weight_cons, lineEnds_append]
      refine .inr ?_
      rcases ih with heq | hlt
      · rw [heq]
        omega
      · omega
  | added hk _ ih =>
      rw [List.map_cons, hk.stripEscapes, weight_cons]
      refine .inr ?_
      rcases ih with heq | hlt
      · rw [heq]
        omega
      · omega

theorem chompReturn_reverse (a : List Char) :
    Text.chompReturn a.reverse = if a.head? = some '\r' then a.tail.reverse else a.reverse := by
  rw [Text.chompReturn, List.getLast?_reverse, List.dropLast_reverse]

/-- The line that a line feed ends. -/
theorem Held.grown_chompReturn {a b : List Char} (h : Held a b) {ks ls : List String}
    (hrest : Grown ks ls) :
    Grown (String.ofList (Text.chompReturn a.reverse) :: ks)
      (String.ofList (Text.chompReturn b.reverse) :: ls) := by
  rw [chompReturn_reverse, chompReturn_reverse]
  cases h with
  | nil => exact .same colors_empty hrest
  | char hc h =>
      rw [List.head?_cons, List.head?_cons]
      refine .same ?_ hrest
      split_ifs
      · simpa [Colors] using h.inked
      · simpa [Colors] using (h.char hc).inked
  | sequence hps h =>
      rw [if_neg (by simp)]
      have hline := (h.sequence hps).inked
      split_ifs with hreturn
      · obtain ⟨b, rfl⟩ := List.head?_eq_some_iff.mp hreturn
        exact .returned (by simpa [Colors] using hline) hrest
      · exact .same (by simpa [Colors] using hline) hrest

theorem Held.grown {a b cs ds : List Char} (hheld : Held a b) (h : Inked cs ds) :
    Grown ((Text.linesFrom a cs).map String.ofList) ((Text.linesFrom b ds).map String.ofList) := by
  induction h generalizing a b with
  | nil =>
      have hline := hheld.inked
      cases hheld with
      | nil => exact .nil
      | char hc hheld => exact .same (by simpa [Colors] using hline) .nil
      | sequence hps hheld =>
          cases b with
          | nil => exact .added (by simpa [Colors] using hline) .nil
          | cons d b => exact .same (by simpa [Colors] using hline) .nil
  | @char c cs ds hc _ ih =>
      by_cases hfeed : c = '\n'
      · subst hfeed
        rw [Text.linesFrom, Text.linesFrom, List.map_cons, List.map_cons]
        exact hheld.grown_chompReturn (ih .nil)
      · rw [Text.linesFrom, Text.linesFrom]
        · exact ih (hheld.char hc)
        · exact hfeed
        · exact hfeed
  | sequence hps _ ih =>
      rw [linesFrom_sequence hps]
      exact ih (hheld.sequence hps)

theorem Colors.grown_lines {s t : String} (h : Colors s t) :
    Grown (Text.lines s) (Text.lines t) :=
  Held.nil.grown h

end Blueprint.Terminal
