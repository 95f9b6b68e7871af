import Blueprint.Proofs.Except
import Blueprint.Proofs.Json.Line

/-!
# What a successful reading has read

When the reader gives a value, the first character tells which form the value has, and a container
has been read one item or member at a time. Values that are read have their members in key order.
-/

namespace Blueprint.Json

@[simp] theorem failAt_ne_ok {α : Type} {f : Fault} {s : List Char} {a : α} :
    failAt f s ≠ .ok a := nofun

@[simp] theorem failIn_ne_ok {α : Type} {f : Fault} {s : List Char} {a : α} :
    failIn f s ≠ .ok a := nofun

/-! ### Containers -/

/-- Where the text of the next item starts, past its comma unless it is the first. -/
def Starts (close : Char) (first : Bool) (s t : List Char) : Prop :=
  ∃ c u, t = c :: u ∧ c ≠ close ∧
    if first then skipSpace s = t else ∃ r, skipSpace s = ',' :: r ∧ skipSpace r = t

/-- An item and those after it. -/
def readItemsFrom (value : List Char → Except Mishap (Value × List Char)) (n : Nat)
    (s : List Char) : Except Mishap (List Value × List Char) := do
  let (v, s) ← value s
  let (vs, s) ← readItems value n false s
  .ok (v :: vs, s)

/-- A member and those after it. -/
def readMembersFrom (value : List Char → Except Mishap (Value × List Char)) (steps n : Nat)
    (s : List Char) : Except Mishap (List Member × List Char) := do
  let (m, s) ← readMember value steps s
  let (ms, s) ← readMembers value steps n false s
  .ok (m :: ms, s)

section Containers

variable {value : List Char → Except Mishap (Value × List Char)} {steps n : Nat} {first : Bool}
  {s r : List Char}

/-- The loop that items and members are read by. -/
theorem loop_eq_ok_iff {α : Type} {close : Char} {open₁ open₂ : Fault} (hcomma : close ≠ ',')
    (item : List Char → Except Mishap (List α × List Char)) {as : List α} :
    (match skipSpace s with
      | [] => failIn open₁ []
      | c :: rest =>
        if c = close then .ok ([], rest)
        else if first then item (c :: rest)
        else if c = ',' then
          match skipSpace rest with
          | [] => failIn .endInValue []
          | d :: rest =>
            if d = close then failIn .trailingComma (d :: rest) else item (d :: rest)
        else failIn open₂ (c :: rest)) = .ok (as, r) ↔
      skipSpace s = close :: r ∧ as = [] ∨ ∃ t, Starts close first s t ∧ item t = .ok (as, r) := by
  simp only [Starts]
  cases hs : skipSpace s with
  | nil => cases first <;> simp
  | cons c t =>
      by_cases hclose : c = close
      · subst hclose
        cases first <;> simp [hcomma] <;> grind
      · cases first with
        | true => simp [hclose]
        | false =>
            by_cases hc : c = ','
            · subst hc
              cases ht : skipSpace t with
              | nil => simp [ht, hclose]
              | cons d t => by_cases hd : d = close <;> simp [hd, ht, hclose]
            · simp [hc, hclose]

theorem readItems_eq_ok_iff {vs : List Value} : readItems value (n + 1) first s = .ok (vs, r) ↔
    skipSpace s = ']' :: r ∧ vs = [] ∨ ∃ t, Starts ']' first s t ∧ ∃ v u us,
      value t = .ok (v, u) ∧ readItems value n false u = .ok (us, r) ∧ v :: us = vs := by
  rw [readItems]
  refine (loop_eq_ok_iff (by decide) (readItemsFrom value n)).trans ?_
  simp [readItemsFrom, bind_eq_ok_iff]

theorem readMember_eq_ok_iff {m : Member} : readMember value steps s = .ok (m, r) ↔
    ∃ t k u w v, s = '"' :: t ∧ readString steps t = .ok (k, u) ∧ skipSpace u = ':' :: w ∧
      value w = .ok (v, r) ∧ (k, v) = m := by
  constructor
  · intro h
    unfold readMember at h
    split at h
    next t =>
      obtain ⟨⟨k, u⟩, hk, h⟩ := bind_eq_ok_iff.mp h
      simp only at h
      split at h
      next => cases h
      next w hw =>
        obtain ⟨⟨v, x⟩, hv, h⟩ := bind_eq_ok_iff.mp h
        cases h
        exact ⟨t, k, u, w, v, rfl, hk, hw, hv, rfl⟩
      next => cases h
    next => cases h
  · rintro ⟨t, k, u, w, v, rfl, hk, hw, hv, rfl⟩
    simp only [readMember, hk, ok_bind, hw, hv]

theorem readMembers_eq_ok_iff {ms : List Member} :
    readMembers value steps (n + 1) first s = .ok (ms, r) ↔
    skipSpace s = '}' :: r ∧ ms = [] ∨ ∃ t, Starts '}' first s t ∧ ∃ m u ns,
      readMember value steps t = .ok (m, u) ∧
      readMembers value steps n false u = .ok (ns, r) ∧ m :: ns = ms := by
  rw [readMembers]
  refine (loop_eq_ok_iff (by decide) (readMembersFrom value steps n)).trans ?_
  simp [readMembersFrom, bind_eq_ok_iff]

end Containers

/-! ### Values -/

/-- The text of a value of some form, and what is left of it after the value. -/
inductive Form (steps : Nat) : Nat → List Char → Value → List Char → Prop where
  | null {depth : Nat} {s r : List Char} (h : readWord ['u', 'l', 'l'] s = .ok r) :
      Form steps depth ('n' :: s) .null r
  | true {depth : Nat} {s r : List Char} (h : readWord ['r', 'u', 'e'] s = .ok r) :
      Form steps depth ('t' :: s) (.bool true) r
  | false {depth : Nat} {s r : List Char} (h : readWord ['a', 'l', 's', 'e'] s = .ok r) :
      Form steps depth ('f' :: s) (.bool false) r
  | negative {depth : Nat} {s r : List Char} {n : Number} (h : readNumber false s = .ok (n, r)) :
      Form steps depth ('-' :: s) (.number n) r
  | positive {depth : Nat} {c : Char} {s r : List Char} {n : Number} (hc : c.isDigit)
      (h : readNumber true (c :: s) = .ok (n, r)) : Form steps depth (c :: s) (.number n) r
  | string {depth : Nat} {s r : List Char} {t : String} (h : readString steps s = .ok (t, r)) :
      Form steps depth ('"' :: s) (.string t) r
  | array {depth : Nat} {s r : List Char} {vs : List Value}
      (h : readItems (readValue steps depth) steps true s = .ok (vs, r)) :
      Form steps (depth + 1) ('[' :: s) (.array vs) r
  | object {depth : Nat} {s r : List Char} {ms : List Member}
      (h : readMembers (readValue steps depth) steps steps true s = .ok (ms, r)) :
      Form steps (depth + 1) ('{' :: s) (.record ms) r

theorem readValue_eq_ok_iff {steps depth : Nat} {s r : List Char} {v : Value} :
    readValue steps depth s = .ok (v, r) ↔ Form steps depth (skipSpace s) v r := by
  unfold readValue
  cases skipSpace s with
  | nil => constructor <;> (intro h; cases h)
  | cons c t =>
      constructor
      · intro h
        simp only at h
        split_ifs at h with hn ht hf hminus hdigit hquote hbracket hbrace
        · obtain ⟨u, hu, h⟩ := bind_eq_ok_iff.mp h
          cases h
          exact hn ▸ .null hu
        · obtain ⟨u, hu, h⟩ := bind_eq_ok_iff.mp h
          cases h
          exact ht ▸ .true hu
        · obtain ⟨u, hu, h⟩ := bind_eq_ok_iff.mp h
          cases h
          exact hf ▸ .false hu
        · obtain ⟨u, hu, h⟩ := bind_eq_ok_iff.mp h
          cases h
          exact hminus ▸ .negative hu
        · obtain ⟨u, hu, h⟩ := bind_eq_ok_iff.mp h
          cases h
          exact .positive hdigit hu
        · obtain ⟨u, hu, h⟩ := bind_eq_ok_iff.mp h
          cases h
          exact hquote ▸ .string hu
        · cases depth with
          | zero => cases h
          | succ depth =>
              obtain ⟨u, hu, h⟩ := bind_eq_ok_iff.mp h
              cases h
              exact hbracket ▸ .array hu
        · cases depth with
          | zero => cases h
          | succ depth =>
              obtain ⟨u, hu, h⟩ := bind_eq_ok_iff.mp h
              cases h
              exact hbrace ▸ .object hu
        · cases h
      · intro h
        cases h with
        | positive hc h =>
            have hne : c ≠ 'n' ∧ c ≠ 't' ∧ c ≠ 'f' ∧ c ≠ '-' := by
              refine ⟨?_, ?_, ?_, ?_⟩ <;> exact ne_of_isDigit hc rfl
            simp [hne, hc, h]
        | null h | true h | false h | negative h | string h | array h | object h => simp [h]

/-! ### Order -/

section Order

variable {value : List Char → Except Mishap (Value × List Char)} {steps n : Nat} {first : Bool}
  {s r : List Char}

theorem normalItems_of_readItems (hvalue : ∀ {s v r}, value s = .ok (v, r) → normal v = v)
    {vs : List Value} (h : readItems value n first s = .ok (vs, r)) : normalItems vs = vs := by
  induction n generalizing first s vs with
  | zero => cases h
  | succ n ih =>
      obtain ⟨-, rfl⟩ | ⟨t, -, v, u, us, hv, hus, rfl⟩ := readItems_eq_ok_iff.mp h
      · rfl
      · rw [normalItems, hvalue hv, ih hus]

theorem normalMembers_of_readMembers (hvalue : ∀ {s v r}, value s = .ok (v, r) → normal v = v)
    {ms : List Member} (h : readMembers value steps n first s = .ok (ms, r)) :
    normalMembers ms = ms := by
  induction n generalizing first s ms with
  | zero => cases h
  | succ n ih =>
      obtain ⟨-, rfl⟩ | ⟨t, -, m, u, ns, hm, hns, rfl⟩ := readMembers_eq_ok_iff.mp h
      · rfl
      · obtain ⟨_, k, _, _, v, -, -, -, hv, rfl⟩ := readMember_eq_ok_iff.mp hm
        rw [normalMembers, hvalue hv, ih hns]

end Order

/-- Values are read with the members of every object in key order. -/
theorem normal_of_readValue {steps depth : Nat} {s r : List Char} {v : Value}
    (h : readValue steps depth s = .ok (v, r)) : normal v = v := by
  induction depth generalizing s v r with
  | zero =>
      have hform := readValue_eq_ok_iff.mp h
      generalize skipSpace s = t at hform
      cases hform <;> rfl
  | succ depth ih =>
      have hform := readValue_eq_ok_iff.mp h
      generalize skipSpace s = t at hform
      cases hform with
      | array hitems => rw [normal, normalItems_of_readItems ih hitems]
      | object hmembers => rw [normal_record, normalMembers_of_readMembers ih hmembers]
      | _ => rfl

theorem parse_eq_ok_iff {text : String} {v : Value} : Value.parse text = .ok v ↔
    ∃ r, readValue (text.toList.length + 1) depthLimit text.toList = .ok (v, r) ∧
      skipSpace r = [] := by
  simp only [Value.parse, bind_eq_ok_iff, Prod.exists]
  constructor
  · rintro ⟨w, r, hread, h⟩
    split at h
    next hr =>
      cases h
      exact ⟨r, hread, hr⟩
    next => cases h
  · rintro ⟨r, hread, hr⟩
    exact ⟨v, r, hread, by rw [hr]⟩

theorem normal_of_parse {text : String} {v : Value} (h : Value.parse text = .ok v) :
    normal v = v := by
  obtain ⟨r, hread, -⟩ := parse_eq_ok_iff.mp h
  exact normal_of_readValue hread

end Blueprint.Json
