import Blueprint.Proofs.Json.Inversion

/-!
# Number literals

A literal has a sign, an integral part without leading zeros, and perhaps a fraction and an
exponent. When a literal is read at all it is read to its end. It is read as a natural number only
when it is nothing but digits and below `2 ^ 64`, and then as just that number; any other literal
is read as a negative number or a double.
-/

namespace Blueprint.Json

/-! ### Parts of numbers -/

section Parts

variable {positive : Bool} {significand : Nat} {exponent : Int} {n : Number} {s r u : List Char}

/-- What stands after the sign of an exponent. -/
def readPower (positive : Bool) (significand : Nat) (exponent : Int) (raises : Bool)
    (s : List Char) : Except Mishap (Number × List Char) :=
  match s with
  | [] => failAt .endInValue []
  | c :: _ =>
    if c.isDigit then
      match exponentDigits 0 s with
      | .ok (e, rest) =>
        finishFloat positive significand (if raises then exponent + e else exponent - e) rest
      | .error rest =>
        if significand != 0 && raises then failAt .numberOutOfRange rest
        else .ok (.ofFloat (if positive then 0.0 else -0.0), rest.dropWhile Char.isDigit)
    else failIn .badNumber s

theorem readExponent_cons (c : Char) (s : List Char) :
    readExponent positive significand exponent (c :: s) =
      if c = '+' then readPower positive significand exponent true s
      else if c = '-' then readPower positive significand exponent false s
      else readPower positive significand exponent true (c :: s) := by
  split_ifs with hplus hminus
  · subst hplus
    rfl
  · subst hminus
    rfl
  · rw [readExponent.eq_def]
    split
    next raises t h =>
      split at h
      next heq => exact absurd (List.cons.inj heq).1 hplus
      next heq => exact absurd (List.cons.inj heq).1 hminus
      next =>
        cases h
        rfl

theorem readScale_cons (c : Char) (s : List Char) :
    readScale positive significand exponent (c :: s) =
      if c = 'e' ∨ c = 'E' then readExponent positive significand exponent s
      else finishFloat positive significand exponent (c :: s) := by
  rw [readScale.eq_def]
  split
  next h => rw [if_pos (.inl (List.cons.inj h).1), (List.cons.inj h).2]
  next h => rw [if_pos (.inr (List.cons.inj h).1), (List.cons.inj h).2]
  next he hE =>
    rw [if_neg]
    rintro (rfl | rfl)
    · exact he s rfl
    · exact hE s rfl

theorem readScale_of_endsValue (hu : EndsValue u) :
    readScale positive significand exponent u = finishFloat positive significand exponent u := by
  cases u with
  | nil => rfl
  | cons c u =>
      obtain ⟨-, -, he, hE⟩ := hu.head_ne c rfl
      rw [readScale_cons, if_neg (by simp [he, hE])]

/-- What stands after the digits of a number, some of which may have been passed over. -/
def readRest (positive : Bool) (n skipped : Nat) (s : List Char) :
    Except Mishap (Number × List Char) :=
  match s with
  | '.' :: s => readFraction positive n skipped s
  | s =>
    if skipped = 0 && s.head? != some 'e' && s.head? != some 'E' then .ok (integer positive n, s)
    else readScale positive n skipped s

theorem readRest_cons {m skipped : Nat} (c : Char) (s : List Char) :
    readRest positive m skipped (c :: s) =
      if c = '.' then readFraction positive m skipped s
      else if skipped = 0 ∧ c ≠ 'e' ∧ c ≠ 'E' then .ok (integer positive m, c :: s)
      else readScale positive m skipped (c :: s) := by
  rw [readRest.eq_def]
  split
  next h => rw [if_pos (List.cons.inj h).1, (List.cons.inj h).2]
  next h =>
    have hpoint : c ≠ '.' := by
      rintro rfl
      exact h s rfl
    simp [hpoint, and_assoc]

theorem readRest_of_endsValue {m skipped : Nat} (hu : EndsValue u) :
    readRest positive m skipped u =
      if skipped = 0 then .ok (integer positive m, u) else finishFloat positive m skipped u := by
  cases u with
  | nil => simp [readRest, readScale]
  | cons c u =>
      obtain ⟨-, hpoint, he, hE⟩ := hu.head_ne c rfl
      rw [readRest_cons, if_neg hpoint, readScale_of_endsValue hu]
      simp [he, hE]

theorem readNumber_eq_ok_iff : readNumber positive s = .ok (n, r) ↔
    s.takeWhile Char.isDigit ≠ [] ∧
      (∀ d ds, s.takeWhile Char.isDigit ≠ '0' :: d :: ds) ∧
      readRest positive (appendDigits 0 (s.takeWhile Char.isDigit)).1
        ((s.takeWhile Char.isDigit).length - (appendDigits 0 (s.takeWhile Char.isDigit)).2)
        (s.dropWhile Char.isDigit) = .ok (n, r) := by
  simp only [readNumber]
  split
  next h =>
    rw [h]
    split <;> simp
  next d ds h => simp [h]
  next hnil hzero => exact ⟨fun h => ⟨hnil, fun d ds hds => hzero d ds hds, h⟩, fun h => h.2.2⟩

end Parts

/-! ### Literals -/

structure Digits where
  chars : List Char
  ne_nil : chars ≠ []
  isDigit : ∀ c ∈ chars, c.isDigit

theorem Digits.exists_cons (d : Digits) : ∃ c cs, d.chars = c :: cs ∧ c.isDigit := by
  obtain ⟨c, cs, hcs⟩ := List.exists_cons_of_ne_nil d.ne_nil
  exact ⟨c, cs, hcs, d.isDigit c (by simp [hcs])⟩

structure Exponent where
  isUpper : Bool
  /-- Whether the sign is a plus, if there is one. -/
  sign? : Option Bool
  digits : Digits

structure Literal where
  isNegative : Bool
  whole : Nat
  fraction? : Option Digits
  exponent? : Option Exponent

namespace Exponent

def sign (e : Exponent) : List Char :=
  match e.sign? with
  | none => []
  | some true => ['+']
  | some false => ['-']

def chars (e : Exponent) : List Char :=
  (if e.isUpper then 'E' else 'e') :: (e.sign ++ e.digits.chars)

end Exponent

namespace Literal

def fraction (l : Literal) : List Char :=
  match l.fraction? with
  | none => []
  | some d => '.' :: d.chars

def exponent (l : Literal) : List Char :=
  match l.exponent? with
  | none => []
  | some e => e.chars

def chars (l : Literal) : List Char :=
  (if l.isNegative then ['-'] else []) ++ (Nat.toDigits 10 l.whole ++ (l.fraction ++ l.exponent))

def ofNat (n : Nat) : Literal := ⟨false, n, none, none⟩

/-- A literal that is nothing but digits. -/
def IsCount (l : Literal) : Prop :=
  l.isNegative = false ∧ l.fraction? = none ∧ l.exponent? = none

end Literal

section Reading

variable {positive : Bool} {significand : Nat} {exponent : Int} {n : Number} {s r u : List Char}

theorem finishFloat_eq_ok (h : finishFloat positive significand exponent s = .ok (n, r)) :
    r = s ∧ ∃ bits, n = .double bits := by
  rw [finishFloat] at h
  split at h
  next x _ =>
    cases h
    exact ⟨rfl, _, rfl⟩
  next => cases h

theorem exponentDigits_cases {ds : List Char} (hd : ∀ d ∈ ds, d.isDigit)
    (hu : ∀ c ∈ u.head?, c.isDigit = false) (m : Nat) :
    (∃ e, exponentDigits m (ds ++ u) = .ok (e, u)) ∨
      ∃ t, exponentDigits m (ds ++ u) = .error t ∧ t.dropWhile Char.isDigit = u := by
  induction ds generalizing m with
  | nil =>
      cases u with
      | nil => exact .inl ⟨m, rfl⟩
      | cons c u => exact .inl ⟨m, by simp [exponentDigits, hu c rfl]⟩
  | cons d ds ih =>
      rw [List.forall_mem_cons] at hd
      simp only [List.cons_append, exponentDigits, if_pos hd.1]
      split_ifs
      · exact ih hd.2 _
      · exact .inr ⟨_, rfl, (span_isDigit_append hd.2 hu).2⟩

theorem readPower_digits {raises : Bool} (d : Digits) (hu : EndsValue u)
    (h : readPower positive significand exponent raises (d.chars ++ u) = .ok (n, r)) :
    r = u ∧ ∃ bits, n = .double bits := by
  obtain ⟨c, cs, hcs, hc⟩ := d.exists_cons
  have hhead : ∀ c ∈ u.head?, c.isDigit = false := fun c hc => (hu.head_ne c hc).1
  have hcases := exponentDigits_cases d.isDigit hhead 0
  rw [hcs, List.cons_append] at h hcases
  rw [readPower, if_pos hc] at h
  obtain ⟨e, he⟩ | ⟨t, ht, hdrop⟩ := hcases
  · rw [he] at h
    exact finishFloat_eq_ok h
  · rw [ht] at h
    simp only [hdrop] at h
    split_ifs at h <;> cases h <;> exact ⟨rfl, _, rfl⟩

theorem readExponent_digits (d : Digits) (u : List Char) :
    readExponent positive significand exponent (d.chars ++ u) =
      readPower positive significand exponent true (d.chars ++ u) := by
  obtain ⟨c, cs, hcs, hc⟩ := d.exists_cons
  rw [hcs, List.cons_append, readExponent_cons, if_neg (ne_of_isDigit hc rfl),
    if_neg (ne_of_isDigit hc rfl)]

theorem readScale_exponent (l : Literal) (hu : EndsValue u)
    (h : readScale positive significand exponent (l.exponent ++ u) = .ok (n, r)) :
    r = u ∧ ∃ bits, n = .double bits := by
  rw [Literal.exponent] at h
  split at h
  next =>
    rw [List.nil_append, readScale_of_endsValue hu] at h
    exact finishFloat_eq_ok h
  next e _ =>
    rw [Exponent.chars, List.cons_append, readScale_cons,
      if_pos (by cases e.isUpper <;> simp), Exponent.sign] at h
    split at h
    next =>
      rw [List.nil_append, readExponent_digits] at h
      exact readPower_digits e.digits hu h
    next => exact readPower_digits e.digits hu h
    next => exact readPower_digits e.digits hu h

theorem head_ne_of_exponent (l : Literal) (hu : EndsValue u) :
    ∀ c ∈ (l.exponent ++ u).head?, c.isDigit = false ∧ c ≠ '.' := by
  rw [Literal.exponent]
  split
  next => exact fun c hc => ⟨(hu.head_ne c hc).1, (hu.head_ne c hc).2.1⟩
  next e _ =>
    intro c hc
    obtain rfl : (if e.isUpper then 'E' else 'e') = c := by simpa [Exponent.chars] using hc
    cases e.isUpper <;> decide

theorem head_ne_of_fraction (l : Literal) (hu : EndsValue u) :
    ∀ c ∈ (l.fraction ++ (l.exponent ++ u)).head?, c.isDigit = false := by
  rw [Literal.fraction]
  split
  next => exact fun c hc => (head_ne_of_exponent l hu c hc).1
  next d _ =>
    intro c hc
    obtain rfl : '.' = c := by simpa using hc
    decide

theorem readFraction_digits (l : Literal) (d : Digits) (hu : EndsValue u)
    (h : readFraction positive significand exponent (d.chars ++ (l.exponent ++ u)) = .ok (n, r)) :
    r = u ∧ ∃ bits, n = .double bits := by
  obtain ⟨htake, hdrop⟩ := span_isDigit_append d.isDigit fun c hc =>
    (head_ne_of_exponent l hu c hc).1
  simp only [readFraction, htake, hdrop] at h
  rw [if_neg (by simpa using d.ne_nil)] at h
  exact readScale_exponent l hu h

theorem readRest_literal {m skipped : Nat} (l : Literal) (hu : EndsValue u)
    (h : readRest positive m skipped (l.fraction ++ (l.exponent ++ u)) = .ok (n, r)) :
    r = u ∧ ((∃ bits, n = .double bits) ∨
      l.fraction? = none ∧ l.exponent? = none ∧ skipped = 0 ∧ n = integer positive m) := by
  rw [Literal.fraction] at h
  split at h
  next hfraction =>
    rw [List.nil_append] at h
    cases hexponent : l.exponent? with
    | none =>
        have hempty : l.exponent = [] := by rw [Literal.exponent, hexponent]
        rw [hempty, List.nil_append, readRest_of_endsValue hu] at h
        split_ifs at h with hskipped
        · cases h
          exact ⟨rfl, .inr ⟨hfraction, rfl, hskipped, rfl⟩⟩
        · obtain ⟨hr, hn⟩ := finishFloat_eq_ok h
          exact ⟨hr, .inl hn⟩
    | some e =>
        have hchars : l.exponent = e.chars := by rw [Literal.exponent, hexponent]
        have hscale : readScale positive m skipped (l.exponent ++ u) = .ok (n, r) := by
          rw [hchars, Exponent.chars, List.cons_append, readRest_cons] at h
          rw [hchars, Exponent.chars, List.cons_append]
          cases hupper : e.isUpper <;> simpa [hupper] using h
        obtain ⟨hr, hn⟩ := readScale_exponent l hu hscale
        exact ⟨hr, .inl hn⟩
  next d _ =>
    obtain ⟨hr, hn⟩ := readFraction_digits l d hu h
    exact ⟨hr, .inl hn⟩

/-- When every digit is taken in, the number is the one that the digits stand for. -/
theorem appendDigits_of_length_le {m : Nat} {ds : List Char}
    (h : ds.length ≤ (appendDigits m ds).2) (hm : m < UInt64.size) :
    (appendDigits m ds).1 = Nat.ofDigitChars 10 ds m ∧ Nat.ofDigitChars 10 ds m < UInt64.size := by
  induction ds generalizing m with
  | nil => exact ⟨by simp [appendDigits], by simpa using hm⟩
  | cons d ds ih =>
      rw [Nat.ofDigitChars_cons]
      simp only [appendDigits] at h ⊢
      split_ifs at h ⊢ with hlt
      · exact ih (by simpa using h) hlt
      · simp at h

theorem integer_eq_nat {m : Nat} {k : UInt64} (h : integer positive m = .nat k) :
    positive = true ∧ k = UInt64.ofNat m := by
  rw [integer] at h
  split_ifs at h with hpositive
  · exact ⟨hpositive, (Number.nat.inj h).symm⟩
  · cases h

/-- A literal is read to its end, and as a natural number only if it is a count. -/
theorem readNumber_literal (l : Literal) (hu : EndsValue u)
    (h : readNumber positive (Nat.toDigits 10 l.whole ++ (l.fraction ++ (l.exponent ++ u))) =
      .ok (n, r)) :
    r = u ∧ ∀ k, n = .nat k →
      positive = true ∧ l.fraction? = none ∧ l.exponent? = none ∧ k.toNat = l.whole := by
  obtain ⟨htake, hdrop⟩ := span_isDigit_append (fun d hd => isDigit_of_mem_toDigits hd)
    (head_ne_of_fraction l hu)
  obtain ⟨-, -, h⟩ := readNumber_eq_ok_iff.mp h
  rw [htake, hdrop] at h
  obtain ⟨rfl, hn⟩ := readRest_literal l hu h
  refine ⟨rfl, fun k hk => ?_⟩
  obtain ⟨bits, hbits⟩ | ⟨hfraction, hexponent, hskipped, hinteger⟩ := hn
  · rw [hk] at hbits
    cases hbits
  · obtain ⟨hpositive, hofNat⟩ := integer_eq_nat (hinteger.symm.trans hk)
    obtain ⟨happend, hlt⟩ := appendDigits_of_length_le (Nat.le_of_sub_eq_zero hskipped) (by decide)
    rw [Nat.ofDigitChars_ten_toDigits] at happend hlt
    refine ⟨hpositive, hfraction, hexponent, ?_⟩
    rw [hofNat, happend, UInt64.toNat_ofNat_of_lt' hlt]

end Reading

namespace Literal

variable {steps depth : Nat} {u r : List Char} {v : Value}

theorem readValue_eq (l : Literal) : readValue steps depth (l.chars ++ u) =
    (readNumber (!l.isNegative)
      (Nat.toDigits 10 l.whole ++ (l.fraction ++ (l.exponent ++ u)))).map
      fun p => (.number p.1, p.2) := by
  rw [chars]
  cases l.isNegative with
  | true => simp [readValue_minus]
  | false =>
      obtain ⟨c, cs, hcs, hc⟩ := exists_toDigits_eq_cons l.whole
      simp [hcs, readValue_digit steps depth hc]

/-- A literal is read as a number and to its end, and as a natural number only if it is a count. -/
theorem of_readValue_eq_ok (l : Literal) (hu : EndsValue u)
    (h : readValue steps depth (l.chars ++ u) = .ok (v, r)) :
    r = u ∧ ∃ n, v = .number n ∧ ∀ k, n = .nat k → l.IsCount ∧ k.toNat = l.whole := by
  rw [readValue_eq] at h
  cases hread : readNumber (!l.isNegative)
      (Nat.toDigits 10 l.whole ++ (l.fraction ++ (l.exponent ++ u))) with
  | error e =>
      rw [hread] at h
      cases h
  | ok p =>
      obtain ⟨n, t⟩ := p
      rw [hread] at h
      cases h
      obtain ⟨rfl, hn⟩ := readNumber_literal l hu hread
      refine ⟨rfl, n, rfl, fun k hk => ?_⟩
      obtain ⟨hpositive, hfraction, hexponent, hwhole⟩ := hn k hk
      exact ⟨⟨by simpa using hpositive, hfraction, hexponent⟩, hwhole⟩

theorem readValue_of_isCount (l : Literal) (hl : l.IsCount) (hlt : l.whole < UInt64.size)
    (hu : EndsValue u) : readValue steps depth (l.chars ++ u) = .ok (.nat l.whole, u) := by
  obtain ⟨hpositive, hfraction, hexponent⟩ := hl
  rw [readValue_eq, hpositive, fraction, hfraction, exponent, hexponent, List.nil_append,
    List.nil_append, Bool.not_false, readNumber_toDigits hlt hu]
  rfl

end Literal

end Blueprint.Json
