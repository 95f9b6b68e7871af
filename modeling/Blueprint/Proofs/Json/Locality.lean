import Blueprint.Proofs.Json.Numeral

/-!
# Reading stays within a value

A value that is read from a text is also read from every longer text, as long as what follows may
stand after a value, and what follows is left over. More steps change nothing either.
-/

namespace Blueprint.Json

/-- What the first reader reads from a text, the second reads from a longer one. -/
def Extends {α : Type} (read read' : List Char → Except Mishap (α × List Char)) : Prop :=
  ∀ {s r : List Char} {a : α}, read s = .ok (a, r) → ∀ {u : List Char}, EndsValue u →
    read' (s ++ u) = .ok (a, r ++ u)

variable {s r u : List Char}

theorem skipSpace_append_of_cons {c : Char} {t : List Char} (h : skipSpace s = c :: t) :
    skipSpace (s ++ u) = c :: (t ++ u) := by
  rw [skipSpace, List.dropWhile_append, show s.dropWhile isSpace = c :: t from h]
  rfl

theorem readWord_append {w : List Char} (h : readWord w s = .ok r) :
    readWord w (s ++ u) = .ok (r ++ u) := by
  induction w generalizing s with
  | nil => cases h; rfl
  | cons c w ih =>
      cases s with
      | nil => cases h
      | cons d s =>
          rw [List.cons_append, readWord]
          rw [readWord] at h
          split_ifs at h ⊢
          · exact ih h
          · cases h

/-! ### Strings -/

theorem readHex_append {n : Nat} (h : readHex s = .ok (n, r)) :
    readHex (s ++ u) = .ok (n, r ++ u) := by
  unfold readHex at h
  split at h
  next a b c d rest =>
    split at h
    next ha hb hc hd =>
      cases h
      simp [readHex, ha, hb, hc, hd]
    next => cases h
  next =>
    split_ifs at h
    all_goals cases h

theorem readLowSurrogate_append {high : Nat} {c : Char} (h : readLowSurrogate high s = .ok (c, r)) :
    readLowSurrogate high (s ++ u) = .ok (c, r ++ u) := by
  unfold readLowSurrogate at h
  split at h
  case h_3 rest =>
    obtain ⟨⟨low, rest⟩, hlow, h⟩ := bind_eq_ok_iff.mp h
    simp only at h
    split_ifs at h with hrange
    · obtain ⟨rfl, rfl⟩ := Prod.mk.inj (Except.ok.inj h)
      simp only [List.cons_append, readLowSurrogate, readHex_append hlow, ok_bind, if_pos hrange]
    · cases h
  all_goals cases h

theorem readEscape_append {c : Char} (h : readEscape s = .ok (c, r)) :
    readEscape (s ++ u) = .ok (c, r ++ u) := by
  unfold readEscape at h
  split at h
  case h_2 rest =>
    obtain ⟨⟨n, rest⟩, hn, h⟩ := bind_eq_ok_iff.mp h
    simp only [List.cons_append, readEscape, readHex_append hn, ok_bind]
    simp only at h
    split_ifs at h ⊢
    · cases h
    · exact readLowSurrogate_append h
    · cases h
      rfl
  all_goals
    cases h
    try rfl

theorem readChars_append {n n' : Nat} (hn : n ≤ n') {cs : List Char}
    (h : readChars n s = .ok (cs, r)) : readChars n' (s ++ u) = .ok (cs, r ++ u) := by
  induction n generalizing n' s cs with
  | zero => cases h
  | succ n ih =>
      obtain ⟨n', rfl⟩ := Nat.exists_eq_add_of_le' hn
      cases s with
      | nil => cases h
      | cons c s =>
        rw [readChars] at h
        rw [List.cons_append, ← Nat.add_assoc, readChars]
        split_ifs at h ⊢
        · cases h
          rfl
        · obtain ⟨⟨d, t⟩, hd, h⟩ := bind_eq_ok_iff.mp h
          obtain ⟨⟨ds, t⟩, hds, h⟩ := bind_eq_ok_iff.mp h
          cases h
          simp only [readEscape_append hd, ok_bind, ih (Nat.le_add_left n _) hds]
        · cases h
        · obtain ⟨⟨ds, t⟩, hds, h⟩ := bind_eq_ok_iff.mp h
          cases h
          simp only [ok_bind, ih (Nat.le_add_left n _) hds]

theorem readString_append {n n' : Nat} (hn : n ≤ n') {t : String}
    (h : readString n s = .ok (t, r)) : readString n' (s ++ u) = .ok (t, r ++ u) := by
  obtain ⟨⟨cs, rest⟩, hcs, h⟩ := bind_eq_ok_iff.mp h
  cases h
  exact bind_eq_ok_iff.mpr ⟨_, readChars_append hn hcs, rfl⟩

/-! ### Numbers -/

section Numbers

variable {positive : Bool} {significand : Nat} {exponent : Int} {n : Number}

/-- Digits end where they ended, as what follows starts with none. -/
theorem span_isDigit_append_of_endsValue (s : List Char) (hu : EndsValue u) :
    (s ++ u).takeWhile Char.isDigit = s.takeWhile Char.isDigit ∧
      (s ++ u).dropWhile Char.isDigit = s.dropWhile Char.isDigit ++ u := by
  induction s with
  | nil => exact span_isDigit_append (by simp) fun c hc => (hu.head_ne c hc).1
  | cons c s ih =>
      by_cases hc : c.isDigit
      · simp [hc, ih]
      · simp [hc]

theorem finishFloat_append (h : finishFloat positive significand exponent s = .ok (n, r)) :
    finishFloat positive significand exponent (s ++ u) = .ok (n, r ++ u) := by
  rw [finishFloat] at h ⊢
  cases hx : scaledFloat? significand exponent with
  | none => simp [hx] at h
  | some x =>
      rw [hx] at h
      cases h
      rfl

theorem exponentDigits_append (hu : EndsValue u) (m : Nat) (s : List Char) :
    exponentDigits m (s ++ u) =
      match exponentDigits m s with
      | .ok (e, r) => .ok (e, r ++ u)
      | .error r => .error (r ++ u) := by
  induction s generalizing m with
  | nil =>
      cases u with
      | nil => rfl
      | cons c u => simp [exponentDigits, (hu.head_ne c rfl).1]
  | cons d s ih =>
      simp only [List.cons_append, exponentDigits]
      split_ifs
      · exact ih _
      · rfl
      · rfl

theorem readPower_append {raises : Bool} (hu : EndsValue u)
    (h : readPower positive significand exponent raises s = .ok (n, r)) :
    readPower positive significand exponent raises (s ++ u) = .ok (n, r ++ u) := by
  cases s with
  | nil => cases h
  | cons c s =>
      have happend := exponentDigits_append hu 0 (c :: s)
      rw [List.cons_append] at happend ⊢
      by_cases hc : c.isDigit
      · rw [readPower, if_pos hc] at h ⊢
        rw [happend]
        cases hdigits : exponentDigits 0 (c :: s) with
        | ok p =>
            rw [hdigits] at h
            exact finishFloat_append h
        | error rest =>
            rw [hdigits] at h
            simp only at h ⊢
            split_ifs at h ⊢ <;> cases h <;> rw [(span_isDigit_append_of_endsValue rest hu).2]
      · rw [readPower, if_neg hc] at h
        cases h

theorem readExponent_append (hu : EndsValue u)
    (h : readExponent positive significand exponent s = .ok (n, r)) :
    readExponent positive significand exponent (s ++ u) = .ok (n, r ++ u) := by
  cases s with
  | nil => cases h
  | cons c s =>
      rw [List.cons_append, readExponent_cons]
      rw [readExponent_cons] at h
      split_ifs at h ⊢
      · exact readPower_append hu h
      · exact readPower_append hu h
      · exact readPower_append hu h

theorem readScale_append (hu : EndsValue u)
    (h : readScale positive significand exponent s = .ok (n, r)) :
    readScale positive significand exponent (s ++ u) = .ok (n, r ++ u) := by
  cases s with
  | nil =>
      rw [List.nil_append, readScale_of_endsValue hu]
      exact finishFloat_append h
  | cons c s =>
      rw [List.cons_append, readScale_cons]
      rw [readScale_cons] at h
      split_ifs at h ⊢
      · exact readExponent_append hu h
      · exact finishFloat_append h

theorem readFraction_append (hu : EndsValue u)
    (h : readFraction positive significand exponent s = .ok (n, r)) :
    readFraction positive significand exponent (s ++ u) = .ok (n, r ++ u) := by
  obtain ⟨htake, hdrop⟩ := span_isDigit_append_of_endsValue s hu
  simp only [readFraction, htake, hdrop] at h ⊢
  split_ifs at h ⊢
  · split at h <;> cases h
  · exact readScale_append hu h

theorem readRest_append {m skipped : Nat} (hu : EndsValue u)
    (h : readRest positive m skipped s = .ok (n, r)) :
    readRest positive m skipped (s ++ u) = .ok (n, r ++ u) := by
  cases s with
  | nil =>
      rw [readRest_of_endsValue endsValue_nil] at h
      rw [List.nil_append, readRest_of_endsValue hu]
      split_ifs at h ⊢
      · cases h
        rfl
      · exact finishFloat_append h
  | cons c s =>
      rw [List.cons_append, readRest_cons]
      rw [readRest_cons] at h
      split_ifs at h ⊢
      · exact readFraction_append hu h
      · cases h
        rfl
      · exact readScale_append hu h

theorem readNumber_append (hu : EndsValue u) (h : readNumber positive s = .ok (n, r)) :
    readNumber positive (s ++ u) = .ok (n, r ++ u) := by
  obtain ⟨htake, hdrop⟩ := span_isDigit_append_of_endsValue s hu
  rw [readNumber_eq_ok_iff] at h ⊢
  rw [htake, hdrop]
  exact ⟨h.1, h.2.1, readRest_append hu h.2.2⟩

end Numbers

/-! ### Containers -/

section Containers

variable {value value' : List Char → Except Mishap (Value × List Char)} {steps steps' n n' : Nat}
  {first : Bool}

theorem Starts.append {close : Char} {t : List Char} (h : Starts close first s t) :
    Starts close first (s ++ u) (t ++ u) := by
  obtain ⟨c, t, rfl, hclose, h⟩ := h
  refine ⟨c, t ++ u, rfl, hclose, ?_⟩
  cases first with
  | true => exact skipSpace_append_of_cons h
  | false =>
      obtain ⟨r, hcomma, hr⟩ := h
      exact ⟨r ++ u, skipSpace_append_of_cons hcomma, skipSpace_append_of_cons hr⟩

theorem extends_readItems (hvalue : Extends value value') (hn : n ≤ n') :
    Extends (readItems value n first) (readItems value' n' first) := by
  intro s r vs h u hu
  induction n generalizing n' first s vs with
  | zero => cases h
  | succ n ih =>
      obtain ⟨n', rfl⟩ := Nat.exists_eq_add_of_le' hn
      rw [← Nat.add_assoc]
      refine readItems_eq_ok_iff.mpr ?_
      obtain ⟨hs, rfl⟩ | ⟨t, ht, v, w, us, hv, hus, rfl⟩ := readItems_eq_ok_iff.mp h
      · exact .inl ⟨skipSpace_append_of_cons hs, rfl⟩
      · exact .inr ⟨_, ht.append, v, _, us, hvalue hv hu, ih (Nat.le_add_left n _) hus, rfl⟩

theorem extends_readMember (hvalue : Extends value value') (hsteps : steps ≤ steps') :
    Extends (readMember value steps) (readMember value' steps') := by
  intro s r m h u hu
  obtain ⟨t, k, w, x, v, rfl, hk, hw, hv, rfl⟩ := readMember_eq_ok_iff.mp h
  exact readMember_eq_ok_iff.mpr ⟨_, k, _, _, v, rfl, readString_append hsteps hk,
    skipSpace_append_of_cons hw, hvalue hv hu, rfl⟩

theorem extends_readMembers (hvalue : Extends value value') (hsteps : steps ≤ steps')
    (hn : n ≤ n') :
    Extends (readMembers value steps n first) (readMembers value' steps' n' first) := by
  intro s r ms h u hu
  induction n generalizing n' first s ms with
  | zero => cases h
  | succ n ih =>
      obtain ⟨n', rfl⟩ := Nat.exists_eq_add_of_le' hn
      rw [← Nat.add_assoc]
      refine readMembers_eq_ok_iff.mpr ?_
      obtain ⟨hs, rfl⟩ | ⟨t, ht, m, w, ns, hm, hns, rfl⟩ := readMembers_eq_ok_iff.mp h
      · exact .inl ⟨skipSpace_append_of_cons hs, rfl⟩
      · exact .inr ⟨_, ht.append, m, _, ns, extends_readMember hvalue hsteps hm hu,
          ih (Nat.le_add_left n _) hns, rfl⟩

end Containers

/-! ### Values -/

theorem Form.append {steps steps' depth : Nat} (hsteps : steps ≤ steps')
    (hdepth : ∀ d < depth, Extends (readValue steps d) (readValue steps' d)) {v : Value}
    (h : Form steps depth s v r) (hu : EndsValue u) : Form steps' depth (s ++ u) v (r ++ u) := by
  cases h with
  | null h => exact .null (readWord_append h)
  | true h => exact .true (readWord_append h)
  | false h => exact .false (readWord_append h)
  | negative h => exact .negative (readNumber_append hu h)
  | positive hc h => exact .positive hc (readNumber_append hu h)
  | string h => exact .string (readString_append hsteps h)
  | array h => exact .array (extends_readItems (hdepth _ (Nat.lt_succ_self _)) hsteps h hu)
  | object h =>
      exact .object (extends_readMembers (hdepth _ (Nat.lt_succ_self _)) hsteps hsteps h hu)

theorem extends_readValue {steps steps' : Nat} (hsteps : steps ≤ steps') (depth : Nat) :
    Extends (readValue steps depth) (readValue steps' depth) := by
  induction depth using Nat.strongRecOn with
  | _ depth ih =>
      intro s r v h u hu
      have hform := readValue_eq_ok_iff.mp h
      refine readValue_eq_ok_iff.mpr ?_
      cases hs : skipSpace s with
      | nil =>
          rw [hs] at hform
          cases hform
      | cons c t =>
          rw [skipSpace_append_of_cons hs]
          exact (hs ▸ hform).append hsteps ih hu

end Blueprint.Json
