import Blueprint.Proofs.Text.Lines
import Blueprint.Terminal.Panel
import Mathlib.Data.List.Forall2

/-!
# Texts with escape sequences

`Inked cs ds` says that the characters `cs` are `ds` with escape sequences put in between. Nothing
is lost by that: taking the sequences out of `cs` gives `ds` back. Whatever paints a text puts it
in this relation to itself.
-/

namespace Blueprint.Terminal

/-- What an escape sequence may have between its bracket and its last letter. -/
def IsParameter (c : Char) : Prop := isLetter c = false ∧ c ≠ '\n'

instance : DecidablePred IsParameter := fun c =>
  inferInstanceAs (Decidable (isLetter c = false ∧ c ≠ '\n'))

def AreParameters (ps : List Char) : Prop := ∀ c ∈ ps, IsParameter c

instance : DecidablePred AreParameters := List.decidableBAll IsParameter

inductive Inked : List Char → List Char → Prop where
  | nil : Inked [] []
  | char {c : Char} {cs ds : List Char} (hc : c ≠ '\x1b') (h : Inked cs ds) :
      Inked (c :: cs) (c :: ds)
  | sequence {ps cs ds : List Char} (hps : AreParameters ps) (h : Inked cs ds) :
      Inked ('\x1b' :: '[' :: (ps ++ 'm' :: cs)) ds

namespace Inked

variable {as bs cs ds : List Char}

theorem self (h : '\x1b' ∉ cs) : Inked cs cs := by
  induction cs with
  | nil => exact .nil
  | cons c cs ih =>
      rw [List.mem_cons, not_or] at h
      exact .char (Ne.symm h.1) (ih h.2)

theorem append (h : Inked as bs) (h' : Inked cs ds) : Inked (as ++ cs) (bs ++ ds) := by
  induction h with
  | nil => exact h'
  | char hc _ ih => exact .char hc ih
  | sequence hps _ ih =>
      have hsequence := Inked.sequence hps ih
      simpa using hsequence

theorem escape_notMem (h : Inked cs ds) : '\x1b' ∉ ds := by
  induction h with
  | nil => exact List.not_mem_nil
  | char hc _ ih => exact List.not_mem_cons_of_ne_of_not_mem (Ne.symm hc) ih
  | sequence _ _ ih => exact ih

end Inked

/-- Everything up to the next letter belongs to an open sequence. -/
theorem stripFrom_inside {ps : List Char} (hps : AreParameters ps) (cs : List Char) :
    stripFrom .inside (ps ++ 'm' :: cs) = stripFrom .outside cs := by
  induction ps with
  | nil => rfl
  | cons p ps ih =>
      obtain ⟨hp, hps⟩ := List.forall_mem_cons.mp hps
      rw [List.cons_append, stripFrom, hp.1, if_neg Bool.false_ne_true, ih hps]

theorem Inked.stripFrom {cs ds : List Char} (h : Inked cs ds) : stripFrom .outside cs = ds := by
  induction h with
  | nil => rfl
  | char hc _ ih => rw [Terminal.stripFrom, if_neg hc, ih]
  | sequence hps _ ih => exact (stripFrom_inside hps _).trans ih

/-! ### Painted texts -/

/-- A text that is another one with escape sequences put in. -/
def Colors (s t : String) : Prop := Inked s.toList t.toList

/-- A text in which no escape sequence begins. -/
def EscapeFree (s : String) : Prop := '\x1b' ∉ s.toList

instance : DecidablePred EscapeFree := fun s => inferInstanceAs (Decidable ('\x1b' ∉ s.toList))

namespace Colors

variable {s s' t t' : String}

theorem self (h : EscapeFree s) : Colors s s := Inked.self h

theorem append (h : Colors s t) (h' : Colors s' t') : Colors (s ++ s') (t ++ t') := by
  rw [Colors, String.toList_append, String.toList_append]
  exact Inked.append h h'

theorem stripEscapes (h : Colors s t) : stripEscapes s = t := by
  rw [Terminal.stripEscapes, h.stripFrom, String.ofList_toList]

theorem escapeFree (h : Colors s t) : EscapeFree t := h.escape_notMem

theorem unlines {ss ts : List String} (h : List.Forall₂ Colors ss ts) :
    Colors (Text.unlines ss) (Text.unlines ts) := by
  induction h with
  | nil => exact .self (by decide)
  | cons hs _ ih =>
      rw [Text.unlines_cons, Text.unlines_cons]
      exact (hs.append (.self (by decide))).append ih

end Colors

theorem colors_escape {ps : String} (hps : AreParameters ps.toList) :
    Colors (escape ps) "" := by
  have hsequence := Inked.sequence hps .nil
  simpa [Colors, escape] using hsequence

variable (ink : Ink) (tone : Tone)

theorem colors_empty : Colors "" "" := .nil

theorem colors_foreground : Colors (ink.foreground tone) "" := by
  cases ink with
  | plain => exact colors_empty
  | colored => cases tone <;> exact colors_escape (by decide)
  | muted => exact colors_escape (by decide)

theorem colors_default : Colors ink.default "" := by
  cases ink with
  | plain => exact colors_empty
  | colored => exact colors_escape (by decide)
  | muted => exact colors_escape (by decide)

variable {s t : String}

theorem Colors.paint (h : Colors s t) : Colors (paint ink tone s) t := by
  have hpaint := ((colors_foreground ink tone).append h).append (colors_default ink)
  simpa [Terminal.paint] using hpaint

theorem Colors.paintBold (h : Colors s t) : Colors (paintBold ink tone s) t := by
  have hone : Colors (escape "1") "" := colors_escape (by decide)
  have hzero : Colors (escape "0") "" := colors_escape (by decide)
  have hbold : Colors (ink.foreground tone ++ escape "1" ++ s ++ escape "0") t := by
    have hparts := (((colors_foreground ink tone).append hone).append h).append hzero
    simpa using hparts
  cases ink with
  | plain => exact h
  | colored => exact hbold
  | muted => exact hbold

end Blueprint.Terminal
