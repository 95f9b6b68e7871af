import Blueprint.Json.Reader
import Mathlib.Data.List.Basic
import Mathlib.Tactic.SplitIfs

/-!
# What the reader does

An escaped character is read as itself, so a quoted string is read as the string, and the digits of
a number below `2 ^ 64` are read as the number when no text of a number follows them. Containers
are read one item or member at a time, past the blanks before each.
-/

namespace Blueprint.Json

/-- What may stand right after a value: the end, a comma, a closing bracket or a blank. -/
def EndsValue (s : List Char) : Prop :=
  ∀ c ∈ s.head?, c = ',' ∨ c = ']' ∨ c = '}' ∨ isSpace c

theorem endsValue_nil : EndsValue [] := by
  intro c hc
  cases hc

theorem EndsValue.of_head {c : Char} {s : List Char}
    (h : c = ',' ∨ c = ']' ∨ c = '}' ∨ isSpace c) : EndsValue (c :: s) := by
  intro d hd
  obtain rfl : c = d := by simpa using hd
  exact h

theorem EndsValue.append {b s : List Char} (hb : ∀ c ∈ b, isSpace c) (hs : EndsValue s) :
    EndsValue (b ++ s) := by
  cases b with
  | nil => exact hs
  | cons c b => exact .of_head (.inr (.inr (.inr (hb c (by simp)))))

theorem EndsValue.head_ne {s : List Char} (hs : EndsValue s) :
    ∀ c ∈ s.head?, c.isDigit = false ∧ c ≠ '.' ∧ c ≠ 'e' ∧ c ≠ 'E' := by
  intro c hc
  rcases hs c hc with rfl | rfl | rfl | hsp
  · decide
  · decide
  · decide
  · simp only [isSpace, Bool.or_eq_true, decide_eq_true_eq] at hsp
    rcases hsp with ((rfl | rfl) | rfl) | rfl <;> decide

/-! ### Blanks -/

section Blanks

variable {b : List Char} (hb : ∀ c ∈ b, isSpace c)
include hb

theorem skipSpace_append (s : List Char) : skipSpace (b ++ s) = skipSpace s :=
  List.dropWhile_append_of_pos hb

theorem readValue_append (steps depth : Nat) (s : List Char) :
    readValue steps depth (b ++ s) = readValue steps depth s := by
  rw [readValue, readValue, skipSpace_append hb]

variable (value : List Char → Except Mishap (Value × List Char)) (steps n : Nat) (first : Bool)

theorem readItems_append (s : List Char) :
    readItems value (n + 1) first (b ++ s) = readItems value (n + 1) first s := by
  rw [readItems, readItems, skipSpace_append hb]

theorem readMembers_append (s : List Char) :
    readMembers value steps (n + 1) first (b ++ s) =
      readMembers value steps (n + 1) first s := by
  rw [readMembers, readMembers, skipSpace_append hb]

end Blanks

theorem skipSpace_cons {c : Char} (hc : isSpace c = false) (s : List Char) :
    skipSpace (c :: s) = c :: s := by simp [skipSpace, hc]

/-! ### Strings -/

theorem hexValue?_hexDigit : ∀ n < 16, Text.hexValue? (Text.hexDigit n) = some n := by decide

theorem readHex_control {n : Nat} (hn : n < 0x20) (rest : List Char) :
    readHex ('0' :: '0' :: Text.hexDigit (n / 16) :: Text.hexDigit (n % 16) :: rest) =
      .ok (n, rest) := by
  have h0 : Text.hexValue? '0' = some 0 := by decide
  have h1 := hexValue?_hexDigit (n / 16) (by omega)
  have h2 := hexValue?_hexDigit (n % 16) (by omega)
  simp only [readHex, h0, h1, h2]
  congr 2
  omega

/-- A character either stands for itself or is written as an escape that is read as it. -/
theorem escapeChar_cases (c : Char) :
    escapeChar c = [c] ∧ c ≠ '"' ∧ c ≠ '\\' ∧ ¬ c.toNat < 0x20 ∨
      ∃ e, escapeChar c = '\\' :: e ∧ ∀ rest, readEscape (e ++ rest) = .ok (c, rest) := by
  unfold escapeChar
  split
  case h_8 c hquote hslash _ _ _ _ _ =>
    split_ifs with hc
    · refine .inr ⟨_, rfl, fun rest => ?_⟩
      simp only [List.cons_append, List.nil_append, readEscape, readHex_control hc, bind,
        Except.bind]
      rw [if_neg (by omega), if_neg (by omega), Char.ofNat_toNat]
    · exact .inl ⟨rfl, hquote, hslash, hc⟩
  all_goals exact .inr ⟨_, rfl, fun _ => rfl⟩

theorem readChars_escapeChar (n : Nat) (c : Char) (s : List Char) :
    readChars (n + 1) (escapeChar c ++ s) = (readChars n s).map fun p => (c :: p.1, p.2) := by
  rcases escapeChar_cases c with ⟨he, hq, hb, hc⟩ | ⟨e, he, hread⟩
  · rw [he, List.singleton_append, readChars, if_neg hq, if_neg hb, if_neg hc]
    cases readChars n s <;> rfl
  · rw [he, List.cons_append, readChars, if_neg (by decide), if_pos rfl, hread]
    change (readChars n s >>= fun p => _) = _
    cases readChars n s <;> rfl

theorem readChars_flatMap_escapeChar {n : Nat} {cs : List Char} (hn : cs.length < n)
    (rest : List Char) : readChars n (cs.flatMap escapeChar ++ '"' :: rest) = .ok (cs, rest) := by
  induction cs generalizing n with
  | nil =>
      obtain ⟨n, rfl⟩ := Nat.exists_eq_add_one_of_ne_zero (Nat.ne_zero_of_lt hn)
      rfl
  | cons c cs ih =>
      obtain ⟨n, rfl⟩ := Nat.exists_eq_add_one_of_ne_zero (Nat.ne_zero_of_lt hn)
      rw [List.flatMap_cons, List.append_assoc, readChars_escapeChar,
        ih (Nat.lt_of_succ_lt_succ hn)]
      rfl

theorem readString_quoted {steps : Nat} {s : String} (hs : s.toList.length < steps)
    (rest : List Char) :
    readString steps (s.toList.flatMap escapeChar ++ '"' :: rest) = .ok (s, rest) := by
  simp only [readString, readChars_flatMap_escapeChar hs, bind, Except.bind, String.ofList_toList]

theorem escapeChar_ne_nil (c : Char) : escapeChar c ≠ [] := by
  rcases escapeChar_cases c with ⟨he, _⟩ | ⟨e, he, _⟩ <;> simp [he]

/-- A text is as long as what it is made of has parts, which gives steps enough to read them. -/
theorem length_le_length_flatMap {α : Type} {f : α → List Char} (hf : ∀ a, f a ≠ [])
    (as : List α) : as.length ≤ (as.flatMap f).length := by
  induction as with
  | nil => simp
  | cons a as ih =>
      have ha : 0 < (f a).length := List.length_pos_of_ne_nil (hf a)
      rw [List.flatMap_cons, List.length_append, List.length_cons]
      omega

/-! ### Numbers -/

theorem le_ofDigitChars (n : Nat) (ds : List Char) : n ≤ Nat.ofDigitChars 10 ds n := by
  induction ds generalizing n with
  | nil => simp
  | cons d ds ih =>
      rw [Nat.ofDigitChars_cons]
      exact Nat.le_trans (by omega) (ih _)

/-- While the number stays in range every digit is taken in. -/
theorem appendDigits_eq {n : Nat} {ds : List Char} (h : Nat.ofDigitChars 10 ds n < UInt64.size) :
    appendDigits n ds = (Nat.ofDigitChars 10 ds n, ds.length) := by
  induction ds generalizing n with
  | nil => simp [appendDigits]
  | cons d ds ih =>
      rw [Nat.ofDigitChars_cons] at h ⊢
      have hm : 10 * n + (d.toNat - '0'.toNat) < UInt64.size :=
        Nat.lt_of_le_of_lt (le_ofDigitChars _ ds) h
      simp only [appendDigits]
      change (if 10 * n + (d.toNat - '0'.toNat) < UInt64.size then _ else _) = _
      rw [if_pos hm]
      simp only [show d.toNat - 48 = d.toNat - '0'.toNat from rfl, ih h, List.length_cons]

theorem head?_toDigits_ne_zero {n : Nat} (hn : 0 < n) : (Nat.toDigits 10 n).head? ≠ some '0' := by
  induction n using Nat.strongRecOn with
  | _ n ih =>
      by_cases hlt : n < 10
      · have hdigit : ∀ m < 10, 0 < m → m.digitChar ≠ '0' := by decide
        rw [Nat.toDigits_of_lt_base hlt, List.head?_cons, ne_eq, Option.some_inj]
        exact hdigit n hlt hn
      · rw [Nat.toDigits_of_base_le (by omega) (by omega),
          List.head?_append_of_ne_nil _ Nat.toDigits_ne_nil]
        exact ih (n / 10) (by omega) (by omega)

theorem span_isDigit_append {ds s : List Char} (hd : ∀ d ∈ ds, d.isDigit)
    (hs : ∀ c ∈ s.head?, c.isDigit = false) :
    (ds ++ s).takeWhile Char.isDigit = ds ∧ (ds ++ s).dropWhile Char.isDigit = s := by
  rw [List.takeWhile_append_of_pos hd, List.dropWhile_append_of_pos hd]
  cases s with
  | nil => simp
  | cons c s => simp [hs c (by simp)]

theorem ne_of_isDigit {c d : Char} (hc : c.isDigit) (hd : d.isDigit = false) : c ≠ d := by
  rintro rfl
  simp [hd] at hc

theorem isSpace_of_isDigit {c : Char} (hc : c.isDigit) : isSpace c = false := by
  have hne {d : Char} (hd : d.isDigit = false) : c ≠ d := ne_of_isDigit hc hd
  simp [isSpace, hne (d := ' ') rfl, hne (d := '\n') rfl, hne (d := '\t') rfl,
    hne (d := '\r') rfl]

theorem isDigit_of_mem_toDigits {n : Nat} {d : Char} (hd : d ∈ Nat.toDigits 10 n) : d.isDigit :=
  Nat.isDigit_of_mem_toDigits (by omega) (by omega) hd

theorem exists_toDigits_eq_cons (n : Nat) :
    ∃ c cs, Nat.toDigits 10 n = c :: cs ∧ c.isDigit := by
  obtain ⟨c, cs, hcs⟩ := List.exists_cons_of_ne_nil (Nat.toDigits_ne_nil (n := n) (b := 10))
  exact ⟨c, cs, hcs, isDigit_of_mem_toDigits (n := n) (by simp [hcs])⟩

theorem readNumber_toDigits {n : Nat} (hn : n < UInt64.size) {s : List Char} (hs : EndsValue s) :
    readNumber true (Nat.toDigits 10 n ++ s) = .ok (.nat (UInt64.ofNat n), s) := by
  obtain ⟨htake, hdrop⟩ := span_isDigit_append (fun d hd => isDigit_of_mem_toDigits (n := n) hd)
    fun c hc => (hs.head_ne c hc).1
  have happend : appendDigits 0 (Nat.toDigits 10 n) = (n, (Nat.toDigits 10 n).length) := by
    rw [appendDigits_eq (by rwa [Nat.ofDigitChars_ten_toDigits]), Nat.ofDigitChars_ten_toDigits]
  simp only [readNumber, htake, hdrop]
  split
  next h => exact absurd h Nat.toDigits_ne_nil
  next h =>
    -- More than one digit with a zero in front: no number is written so.
    rcases Nat.eq_zero_or_pos n with rfl | hpos
    · simp at h
    · exact absurd (by rw [h]; rfl) (head?_toDigits_ne_zero hpos)
  next h =>
    rw [happend]
    simp only [Nat.sub_self]
    split
    next => exact absurd rfl (hs.head_ne '.' rfl).2.1
    next =>
      have he : s.head? ≠ some 'e' := fun h => (hs.head_ne _ h).2.2.1 rfl
      have hE : s.head? ≠ some 'E' := fun h => (hs.head_ne _ h).2.2.2 rfl
      rw [if_pos (by simp [he, hE])]
      rfl

/-! ### Containers -/

section Containers

variable {value : List Char → Except Mishap (Value × List Char)} {b : List Char}

theorem readItems_close (n : Nat) (first : Bool) (hb : ∀ c ∈ b, isSpace c) (s : List Char) :
    readItems value (n + 1) first (b ++ ']' :: s) = .ok ([], s) := by
  rw [readItems_append hb]
  rfl

theorem readItems_first {n : Nat} (hb : ∀ c ∈ b, isSpace c) {c : Char} (hc : isSpace c = false)
    (hclose : c ≠ ']') {s t u : List Char} {v : Value} {vs : List Value}
    (hv : value (c :: s) = .ok (v, t)) (hvs : readItems value n false t = .ok (vs, u)) :
    readItems value (n + 1) true (b ++ c :: s) = .ok (v :: vs, u) := by
  rw [readItems_append hb]
  simp only [readItems, skipSpace_cons hc, if_neg hclose, if_true, hv, hvs, bind, Except.bind]

theorem readItems_next {n : Nat} (hb : ∀ c ∈ b, isSpace c) {c : Char} (hc : isSpace c = false)
    (hclose : c ≠ ']') {s t u : List Char} {v : Value} {vs : List Value}
    (hv : value (c :: s) = .ok (v, t)) (hvs : readItems value n false t = .ok (vs, u)) :
    readItems value (n + 1) false (',' :: (b ++ c :: s)) = .ok (v :: vs, u) := by
  have hcomma : skipSpace (',' :: (b ++ c :: s)) = ',' :: (b ++ c :: s) :=
    skipSpace_cons (by decide) _
  simp only [readItems, hcomma, skipSpace_append hb, skipSpace_cons hc,
    if_neg hclose, if_neg (show ',' ≠ ']' by decide), if_neg Bool.false_ne_true, if_true, hv, hvs,
    bind, Except.bind]

theorem quoted_append (k : String) (s : List Char) :
    quoted k ++ s = '"' :: (k.toList.flatMap escapeChar ++ '"' :: s) := by simp [quoted]

theorem readMember_quoted {steps : Nat} {k : String} (hk : k.toList.length < steps)
    {s t : List Char} {v : Value} (hv : value s = .ok (v, t)) :
    readMember value steps (quoted k ++ ':' :: s) = .ok ((k, v), t) := by
  simp only [quoted_append, readMember, readString_quoted hk, bind, Except.bind,
    skipSpace_cons (show isSpace ':' = false by decide), hv]

theorem readMembers_close (steps n : Nat) (first : Bool) (hb : ∀ c ∈ b, isSpace c)
    (s : List Char) : readMembers value steps (n + 1) first (b ++ '}' :: s) = .ok ([], s) := by
  rw [readMembers_append hb]
  rfl

theorem readMembers_first {steps n : Nat} (hb : ∀ c ∈ b, isSpace c) {k : String}
    {s t u : List Char} {m : Member} {ms : List Member}
    (hm : readMember value steps (quoted k ++ s) = .ok (m, t))
    (hms : readMembers value steps n false t = .ok (ms, u)) :
    readMembers value steps (n + 1) true (b ++ (quoted k ++ s)) = .ok (m :: ms, u) := by
  rw [readMembers_append hb]
  rw [quoted_append] at hm ⊢
  simp only [readMembers, skipSpace_cons (show isSpace '"' = false by decide),
    if_neg (show '"' ≠ '}' by decide), if_true, hm, hms, bind, Except.bind]

theorem readMembers_next {steps n : Nat} (hb : ∀ c ∈ b, isSpace c) {k : String}
    {s t u : List Char} {m : Member} {ms : List Member}
    (hm : readMember value steps (quoted k ++ s) = .ok (m, t))
    (hms : readMembers value steps n false t = .ok (ms, u)) :
    readMembers value steps (n + 1) false (',' :: (b ++ (quoted k ++ s))) = .ok (m :: ms, u) := by
  have hcomma (r : List Char) : skipSpace (',' :: r) = ',' :: r := skipSpace_cons (by decide) r
  rw [quoted_append] at hm ⊢
  simp only [readMembers, hcomma, skipSpace_append hb,
    skipSpace_cons (show isSpace '"' = false by decide), if_neg (show '"' ≠ '}' by decide),
    if_neg (show ',' ≠ '}' by decide), if_neg Bool.false_ne_true, if_true, hm, hms, bind,
    Except.bind]

end Containers

/-! ### Values -/

variable (steps depth : Nat)

theorem readValue_quote (s : List Char) : readValue steps depth ('"' :: s) =
    (readString steps s).map fun p => (.string p.1, p.2) := by
  have hread : readValue steps depth ('"' :: s) =
      readString steps s >>= fun p => .ok (.string p.1, p.2) := by
    -- The reader recurses on the depth, so it is opened at none and at one more.
    cases depth <;> rfl
  rw [hread]
  cases readString steps s <;> rfl

theorem readValue_minus (s : List Char) : readValue steps depth ('-' :: s) =
    (readNumber false s).map fun p => (.number p.1, p.2) := by
  have hread : readValue steps depth ('-' :: s) =
      readNumber false s >>= fun p => .ok (.number p.1, p.2) := by cases depth <;> rfl
  rw [hread]
  cases readNumber false s <;> rfl

theorem readValue_digit {c : Char} (hc : c.isDigit) (s : List Char) :
    readValue steps depth (c :: s) =
      (readNumber true (c :: s)).map fun p => (.number p.1, p.2) := by
  have hne : c ≠ 'n' ∧ c ≠ 't' ∧ c ≠ 'f' ∧ c ≠ '-' := by
    refine ⟨?_, ?_, ?_, ?_⟩ <;> exact ne_of_isDigit hc rfl
  obtain ⟨hn, ht, hf, hm⟩ := hne
  rw [readValue, skipSpace_cons (isSpace_of_isDigit hc)]
  simp only [if_neg hn, if_neg ht, if_neg hf, if_neg hm, if_pos hc]
  cases readNumber true (c :: s) <;> rfl

theorem readValue_bracket (s : List Char) : readValue steps (depth + 1) ('[' :: s) =
    (readItems (readValue steps depth) steps true s).map fun p => (.array p.1, p.2) := by
  change (readItems (readValue steps depth) steps true s >>= fun p => _) = _
  cases readItems (readValue steps depth) steps true s <;> rfl

theorem readValue_brace (s : List Char) : readValue steps (depth + 1) ('{' :: s) =
    (readMembers (readValue steps depth) steps steps true s).map fun p => (.record p.1, p.2) := by
  change (readMembers (readValue steps depth) steps steps true s >>= fun p => _) = _
  cases readMembers (readValue steps depth) steps steps true s <;> rfl

end Blueprint.Json
