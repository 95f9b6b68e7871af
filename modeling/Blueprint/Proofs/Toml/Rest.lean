import Blueprint.Proofs.Toml.Spelling

/-!
# What scalars leave

A reader takes characters from the front: what it leaves is the end of the text that it was given.
-/

namespace Blueprint.Toml

/-- What a reader leaves is the end of what it is given. -/
def LeavesEnd {α : Type} (read : List Char → Option (α × List Char)) : Prop :=
  ∀ {s rest : List Char} {a : α}, read s = some (a, rest) → rest <:+ s

theorem LeavesEnd.map {α β : Type} {read : List Char → Option (α × List Char)}
    (h : LeavesEnd read) (f : α → β) :
    LeavesEnd fun s => (read s).map fun (a, rest) => (f a, rest) := by
  intro s rest b hb
  obtain ⟨⟨a, t⟩, ha, hb⟩ := Option.map_eq_some_iff.mp hb
  cases hb
  exact h ha

variable {s rest : List Char}

theorem skipSpace_suffix (s : List Char) : skipSpace s <:+ s := List.dropWhile_suffix isSpace

theorem newline?_suffix (h : newline? s = some rest) : rest <:+ s := by
  unfold newline? at h
  split at h
  · cases h
    exact List.suffix_cons _ _
  · cases h
    exact (List.suffix_cons _ _).trans (List.suffix_cons _ _)
  · cases h

theorem skipComment_suffix (s : List Char) : skipComment s <:+ s := by
  unfold skipComment
  split
  · exact (List.dropWhile_suffix isCommentChar).trans (List.suffix_cons _ _)
  · exact List.suffix_rfl

theorem skipLines_suffix (n : Nat) (s : List Char) : skipLines n s <:+ s := by
  induction n generalizing s with
  | zero => exact List.suffix_rfl
  | succ n ih =>
      have hblank : skipComment (skipSpace s) <:+ s :=
        (skipComment_suffix _).trans (skipSpace_suffix s)
      rw [skipLines]
      split
      next rest h => exact (ih rest).trans ((newline?_suffix h).trans hblank)
      next => exact hblank

theorem readChar_suffix {c : Char} (h : readChar c s = some rest) : rest <:+ s := by
  unfold readChar at h
  split at h
  · split_ifs at h
    cases h
    exact List.suffix_cons _ _
  · cases h

theorem word?_suffix {w : List Char} (h : word? w s = some rest) : rest <:+ s := by
  induction w generalizing s with
  | nil =>
      cases h
      exact List.suffix_rfl
  | cons c w ih =>
      cases s with
      | nil => cases h
      | cons d s =>
          rw [word?] at h
          split_ifs at h
          exact (ih h).trans (List.suffix_cons _ _)

/-! ### Strings -/

theorem readEscape_leavesEnd : LeavesEnd readEscape := by
  intro s rest c h
  obtain ⟨e, rfl, -, -⟩ := readEscape_eq_some h
  exact List.suffix_append _ _

theorem readBasic_leavesEnd (n : Nat) : LeavesEnd (readBasic n) := by
  intro s rest cs h
  obtain ⟨body, rfl, -⟩ := readBasic_eq_some h
  exact (List.suffix_cons _ _).trans (List.suffix_append _ _)

theorem readLiteral_leavesEnd : LeavesEnd readLiteral := by
  intro s rest cs h
  obtain ⟨rfl, -⟩ := readLiteral_eq_some h
  exact (List.suffix_cons _ _).trans (List.suffix_append _ _)

theorem closing?_leavesEnd (quote : Char) : LeavesEnd (closing? quote) := by
  intro s rest cs h
  unfold closing? at h
  dsimp only at h
  split_ifs at h
  cases h
  exact List.drop_suffix _ _

theorem skipBreak_suffix (n : Nat) (s : List Char) : skipBreak n s <:+ s := by
  induction n generalizing s with
  | zero => exact List.suffix_rfl
  | succ n ih =>
      rw [skipBreak]
      split
      next rest h => exact (ih rest).trans ((newline?_suffix h).trans (skipSpace_suffix s))
      next => exact skipSpace_suffix s

theorem readMultiline_leavesEnd (quote : Char) (n : Nat) : LeavesEnd (readMultiline quote n) := by
  induction n with
  | zero => exact fun h => nomatch h
  | succ n ih =>
      intro s rest cs h
      unfold readMultiline at h
      split at h
      next r hclosing =>
        cases h
        exact closing?_leavesEnd quote hclosing
      next =>
        split at h
        next t hnewline =>
          obtain ⟨⟨es, t'⟩, hes, h⟩ := Option.bind_eq_some_iff.mp h
          cases h
          exact (ih hes).trans (newline?_suffix hnewline)
        next =>
          split at h
          · cases h
          · split_ifs at h
            · split at h
              next after hbreak =>
                refine (ih h).trans ((skipBreak_suffix _ _).trans ?_)
                refine (newline?_suffix hbreak).trans ?_
                exact (skipSpace_suffix _).trans (List.suffix_cons _ _)
              next =>
                obtain ⟨⟨e, t⟩, he, h⟩ := Option.bind_eq_some_iff.mp h
                obtain ⟨⟨es, t'⟩, hes, h⟩ := Option.bind_eq_some_iff.mp h
                cases h
                exact (ih hes).trans ((readEscape_leavesEnd he).trans (List.suffix_cons _ _))
            · obtain ⟨⟨es, t'⟩, hes, h⟩ := Option.bind_eq_some_iff.mp h
              cases h
              exact (ih hes).trans (List.suffix_cons _ _)

theorem newline?_getD_suffix (s : List Char) : (newline? s).getD s <:+ s := by
  cases h : newline? s with
  | none => exact List.suffix_rfl
  | some rest => exact newline?_suffix h

theorem readString_leavesEnd : LeavesEnd readString := by
  intro s rest t h
  obtain ⟨⟨cs, rest'⟩, hcs, h⟩ := Option.map_eq_some_iff.mp h
  cases h
  split at hcs
  case h_1 r =>
    exact (readMultiline_leavesEnd _ _ hcs).trans
      ((newline?_getD_suffix r).trans (List.drop_suffix 3 ('"' :: '"' :: '"' :: r)))
  case h_2 r =>
    exact (readMultiline_leavesEnd _ _ hcs).trans
      ((newline?_getD_suffix r).trans (List.drop_suffix 3 ('\'' :: '\'' :: '\'' :: r)))
  case h_3 => exact (readBasic_leavesEnd _ hcs).trans (List.suffix_cons _ _)
  case h_4 => exact (readLiteral_leavesEnd hcs).trans (List.suffix_cons _ _)
  case h_5 => cases hcs

/-! ### Numbers -/

theorem readDigits_leavesEnd (digit : Char → Bool) (n : Nat) : LeavesEnd (readDigits digit n) := by
  induction n with
  | zero => exact fun h => nomatch h
  | succ n ih =>
      intro s rest ds h
      cases s with
      | nil => cases h
      | cons c s =>
          unfold readDigits at h
          split_ifs at h
          split at h
          next after =>
            refine (ih.map (c :: ·) h).trans ?_
            exact (List.suffix_cons _ _).trans (List.suffix_cons _ _)
          next d t _ =>
            split_ifs at h
            · exact (ih.map (c :: ·) h).trans (List.suffix_cons _ _)
            · cases h
              exact List.suffix_cons _ _
          next =>
            cases h
            exact List.suffix_cons _ _

theorem readDecimalDigits_leavesEnd : LeavesEnd readDecimalDigits :=
  fun h => readDigits_leavesEnd Char.isDigit _ h

theorem readSign_suffix (s : List Char) : (readSign s).2 <:+ s := by
  unfold readSign
  split
  · exact List.suffix_cons _ _
  · exact List.suffix_cons _ _
  · exact List.suffix_rfl

theorem readWhole_suffix {negative : Bool} {ds : List Char}
    (h : readWhole s = some (negative, ds, rest)) : rest <:+ s := by
  have hsign := readSign_suffix s
  unfold readWhole at h
  dsimp only at h
  split at h
  next t ht =>
    cases h
    exact (List.suffix_cons _ _).trans (ht ▸ hsign)
  next =>
    obtain ⟨⟨es, t⟩, hes, h⟩ := Option.map_eq_some_iff.mp h
    cases h
    exact (readDecimalDigits_leavesEnd hes).trans hsign

theorem readExponent_leavesEnd : LeavesEnd readExponent := by
  intro s rest e h
  unfold readExponent at h
  split at h
  · split_ifs at h
    obtain ⟨⟨ds, t⟩, hds, h⟩ := Option.map_eq_some_iff.mp h
    cases h
    exact (readDecimalDigits_leavesEnd hds).trans
      ((readSign_suffix _).trans (List.suffix_cons _ _))
  · cases h

theorem readFloat_leavesEnd : LeavesEnd readFloat := by
  -- What is left when the fraction and the exponent have been read is left over.
  have hdone {negative : Bool} {whole fraction u rest : List Char} {e : Int} {x : Scalar}
      (h : (let d := nearestDouble (digitsValue 10 (whole ++ fraction)) (e - fraction.length)
        if (d.isInf && !negative) = true then none
        else some (Scalar.float (if negative = true then -d else d).toBits, u)) = some (x, rest)) :
      u = rest := by
    dsimp only at h
    split at h
    · cases h
    · cases h
      rfl
  intro s rest x h
  obtain ⟨⟨negative, whole, t⟩, hwhole, h⟩ := Option.bind_eq_some_iff.mp h
  refine List.IsSuffix.trans ?_ (readWhole_suffix hwhole)
  dsimp only at h
  split at h
  · obtain ⟨⟨fs, u⟩, hfs, h⟩ := Option.bind_eq_some_iff.mp h
    have hu := (readDecimalDigits_leavesEnd hfs).trans (List.suffix_cons '.' _)
    dsimp only at h
    split at h
    next e u' he => exact hdone h ▸ (readExponent_leavesEnd he).trans hu
    next => exact hdone h ▸ hu
  · obtain ⟨⟨e, u⟩, he, h⟩ := Option.bind_eq_some_iff.mp h
    exact hdone h ▸ readExponent_leavesEnd he

theorem readSpecial_leavesEnd : LeavesEnd readSpecial := by
  intro s rest x h
  have hsign := readSign_suffix s
  unfold readSpecial at h
  dsimp only at h
  split at h
  next t hinf =>
    cases h
    exact (word?_suffix hinf).trans hsign
  next =>
    obtain ⟨t, hnan, h⟩ := Option.map_eq_some_iff.mp h
    cases h
    exact (word?_suffix hnan).trans hsign

theorem readInteger_leavesEnd : LeavesEnd readInteger := by
  have hbased (base : Nat) {s rest : List Char} {x : Scalar}
      (h : (readDigits (isDigitOf base) (s.length + 1) s).bind (fun r =>
        (inRange false (digitsValue base r.1)).bind fun n => some (Scalar.integer n, r.2)) =
          some (x, rest)) : rest <:+ s := by
    obtain ⟨⟨ds, t⟩, hds, h⟩ := Option.bind_eq_some_iff.mp h
    obtain ⟨n, -, h⟩ := Option.bind_eq_some_iff.mp h
    cases h
    exact readDigits_leavesEnd _ _ hds
  intro s rest x h
  unfold readInteger at h
  dsimp only at h
  split at h
  · exact (hbased 16 h).trans (List.drop_suffix 2 ('0' :: 'x' :: _))
  · exact (hbased 8 h).trans (List.drop_suffix 2 ('0' :: 'o' :: _))
  · exact (hbased 2 h).trans (List.drop_suffix 2 ('0' :: 'b' :: _))
  · obtain ⟨⟨negative, ds, t⟩, hwhole, h⟩ := Option.bind_eq_some_iff.mp h
    obtain ⟨n, -, h⟩ := Option.bind_eq_some_iff.mp h
    cases h
    exact readWhole_suffix hwhole

/-! ### Dates and times -/

theorem readField_leavesEnd (n lo hi : Nat) : LeavesEnd (readField n lo hi) := by
  intro s rest ds h
  unfold readField at h
  dsimp only at h
  split_ifs at h
  cases h
  exact List.drop_suffix _ _

/-- What an attempt leaves when it reads something is the end of what it is given. -/
def LeavesEndIfRead {α : Type} (read : List Char → Attempt α) : Prop :=
  ∀ {s rest : List Char} {a : α}, read s = .read a rest → rest <:+ s

theorem attempt_eq_read_iff {α : Type} {x : Option (α × List Char)} {a : α} :
    attempt x = .read a rest ↔ x = some (a, rest) := by
  cases x with
  | none => simp [attempt]
  | some r =>
      obtain ⟨b, t⟩ := r
      simp [attempt]

/-- A field and the character that ends it. -/
theorem readField_readChar_suffix {n lo hi : Nat} {c : Char} {ds : List Char}
    (h : ((readField n lo hi s).bind fun (ds, s) => (readChar c s).map (ds, ·)) =
      some (ds, rest)) : rest <:+ s := by
  obtain ⟨⟨ds', t⟩, hfield, h⟩ := Option.bind_eq_some_iff.mp h
  obtain ⟨t', hchar, h⟩ := Option.map_eq_some_iff.mp h
  cases h
  exact (readChar_suffix hchar).trans (readField_leavesEnd _ _ _ hfield)

theorem readDate_leavesEnd : LeavesEndIfRead readDate := by
  intro s rest cs h
  unfold readDate at h
  split at h
  · cases h
  next y t hyear =>
    obtain ⟨⟨m, t₁⟩, hmonth, h⟩ := Option.bind_eq_some_iff.mp (attempt_eq_read_iff.mp h)
    obtain ⟨t₂, hdash, h⟩ := Option.bind_eq_some_iff.mp h
    obtain ⟨⟨d, t₃⟩, hday, h⟩ := Option.bind_eq_some_iff.mp h
    cases h
    calc rest <:+ t₂ := readField_leavesEnd _ _ _ hday
      _ <:+ t₁ := readChar_suffix hdash
      _ <:+ t := readField_leavesEnd _ _ _ hmonth
      _ <:+ s := readField_readChar_suffix hyear

theorem readTime_leavesEnd : LeavesEndIfRead readTime := by
  intro s rest cs h
  unfold readTime at h
  split at h
  · cases h
  next hour t hhour =>
    obtain ⟨⟨m, t₁⟩, hminute, h⟩ := Option.bind_eq_some_iff.mp (attempt_eq_read_iff.mp h)
    obtain ⟨t₂, hcolon, h⟩ := Option.bind_eq_some_iff.mp h
    obtain ⟨⟨sec, t₃⟩, hsecond, h⟩ := Option.bind_eq_some_iff.mp h
    have hclock : t₃ <:+ s :=
      calc t₃ <:+ t₂ := readField_leavesEnd _ _ _ hsecond
        _ <:+ t₁ := readChar_suffix hcolon
        _ <:+ t := readField_leavesEnd _ _ _ hminute
        _ <:+ s := readField_readChar_suffix hhour
    dsimp only at h
    split at h
    next after =>
      split at h
      · cases h
        exact hclock
      · cases h
        exact (List.drop_suffix _ _).trans ((List.suffix_cons _ _).trans hclock)
    next =>
      cases h
      exact hclock

theorem readOffset_leavesEnd : LeavesEndIfRead readOffset := by
  intro s rest cs h
  unfold readOffset at h
  split at h
  next c t =>
    split_ifs at h
    · cases h
      exact List.suffix_cons _ _
    · obtain ⟨⟨hour, t₁⟩, hhour, h⟩ := Option.bind_eq_some_iff.mp (attempt_eq_read_iff.mp h)
      obtain ⟨t₂, hcolon, h⟩ := Option.bind_eq_some_iff.mp h
      obtain ⟨⟨m, t₃⟩, hminute, h⟩ := Option.bind_eq_some_iff.mp h
      cases h
      calc rest <:+ t₂ := readField_leavesEnd _ _ _ hminute
        _ <:+ t₁ := readChar_suffix hcolon
        _ <:+ t := readField_leavesEnd _ _ _ hhour
        _ <:+ c :: t := List.suffix_cons c t
  next => cases h

theorem readDateTime_leavesEnd : LeavesEndIfRead readDateTime := by
  intro s rest x h
  unfold readDateTime at h
  dsimp only at h
  split at h
  · cases h
  · split at h
    next t u htime =>
      cases h
      exact readTime_leavesEnd htime
    · cases h
    · cases h
  next d u hdate =>
    have hu := readDate_leavesEnd hdate
    split at h
    next c after =>
      have hafter := (List.suffix_cons c after).trans hu
      split_ifs at h
      · split at h
        · cases h
        · cases h
          exact hu
        next t v htime =>
          have hv := (readTime_leavesEnd htime).trans hafter
          split at h
          · cases h
          · cases h
            exact hv
          next o w hoffset =>
            cases h
            exact (readOffset_leavesEnd hoffset).trans hv
      · cases h
        exact hu
    next =>
      cases h
      exact hu

/-! ### Any scalar -/

theorem readNumeric_leavesEnd : LeavesEnd readNumeric := by
  intro s rest x h
  unfold readNumeric at h
  split at h
  next v t hdate =>
    cases h
    exact readDateTime_leavesEnd hdate
  · cases h
  next =>
    split at h
    next r hfloat =>
      cases h
      exact readFloat_leavesEnd hfloat
    next =>
      split at h
      next r hspecial =>
        cases h
        exact readSpecial_leavesEnd hspecial
      next => exact readInteger_leavesEnd h

/-- Whatever scalar is read, what is left is the end of the text. -/
theorem readScalar_leavesEnd : LeavesEnd readScalar := by
  intro s rest x h
  unfold readScalar at h
  split at h
  · cases h
  next c t =>
    split_ifs at h
    · exact readString_leavesEnd.map Scalar.string h
    · obtain ⟨u, hword, h⟩ := Option.map_eq_some_iff.mp h
      cases h
      exact word?_suffix hword
    · obtain ⟨u, hword, h⟩ := Option.map_eq_some_iff.mp h
      cases h
      exact word?_suffix hword
    · exact readSpecial_leavesEnd h
    · exact readNumeric_leavesEnd h

end Blueprint.Toml
