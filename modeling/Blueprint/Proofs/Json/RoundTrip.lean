import Blueprint.Proofs.Json.Printing
import Blueprint.Proofs.Json.Reading

/-!
# Reading printed values back

Whatever the spacing, the reader gives back the printed value with the members of every object in
key order, as long as its numbers are natural and its containers are not nested too deep. `Plain`
is that condition and `normal` that value.
-/

namespace Blueprint.Json

/-- All numbers are natural, and containers are nested at most `depth` deep. -/
inductive Plain : Nat → Value → Prop where
  | null (depth : Nat) : Plain depth .null
  | bool (depth : Nat) (b : Bool) : Plain depth (.bool b)
  | nat (depth : Nat) (n : UInt64) : Plain depth (.number (.nat n))
  | string (depth : Nat) (s : String) : Plain depth (.string s)
  | array {depth : Nat} {vs : List Value} (h : ∀ v ∈ vs, Plain depth v) :
      Plain (depth + 1) (.array vs)
  | object {depth : Nat} {ms : List Member} (h : ∀ m ∈ ms, Plain depth m.2) :
      Plain (depth + 1) (.object ms)

mutual

/-- The value that is read from a text of the given one. -/
def normal : Value → Value
  | .array vs => .array (normalItems vs)
  | .object ms => .record (normalMembers ms)
  | .null => .null
  | .bool b => .bool b
  | .number n => .number n
  | .string s => .string s

def normalItems : List Value → List Value
  | [] => []
  | v :: rest => normal v :: normalItems rest

def normalMembers : List (String × Value) → List Member
  | [] => []
  | (k, v) :: rest => (k, normal v) :: normalMembers rest

end

theorem normalItems_eq_map (vs : List Value) : normalItems vs = vs.map normal := by
  induction vs with
  | nil => rfl
  | cons v vs ih => rw [normalItems, ih, List.map_cons]

/-! ### First characters -/

namespace Spacing

variable (l : Spacing)

/-- A text begins neither with a blank nor with the closing bracket of a list. -/
theorem render_head {depth : Nat} {v : Value} (hv : Plain depth v) (d : Nat) :
    ∃ c s, l.render d v = c :: s ∧ isSpace c = false ∧ c ≠ ']' := by
  cases hv with
  | null => exact ⟨'n', _, rfl, by decide, by decide⟩
  | bool _ b => cases b with
    | false => exact ⟨'f', _, rfl, by decide, by decide⟩
    | true => exact ⟨'t', _, rfl, by decide, by decide⟩
  | nat _ n =>
      obtain ⟨c, s, hs, hc⟩ := exists_toDigits_eq_cons n.toNat
      exact ⟨c, s, hs, isSpace_of_isDigit hc, ne_of_isDigit hc rfl⟩
  | string => exact ⟨'"', _, rfl, by decide, by decide⟩
  | @array _ vs _ => cases vs with
    | nil => exact ⟨'[', _, rfl, by decide, by decide⟩
    | cons v vs => exact ⟨'[', _, rfl, by decide, by decide⟩
  | @object _ ms _ => cases ms with
    | nil => exact ⟨'{', _, rfl, by decide, by decide⟩
    | cons m ms => exact ⟨'{', _, rfl, by decide, by decide⟩

theorem endsValue_renderItems (d : Nat) (vs : List Value) {s : List Char} (hs : EndsValue s) :
    EndsValue (l.renderItems d vs ++ s) := by
  cases vs with
  | nil => exact hs
  | cons v vs => exact .of_head (.inl rfl)

theorem endsValue_renderMembers (d : Nat) (ms : List Member) {s : List Char} (hs : EndsValue s) :
    EndsValue (l.renderMembers d ms ++ s) := by
  cases ms with
  | nil => exact hs
  | cons m ms => exact .of_head (.inl rfl)

theorem endsValue_close (d : Nat) {c : Char} (hc : c = ']' ∨ c = '}') (s : List Char) :
    EndsValue (l.close d ++ c :: s) := by
  refine EndsValue.append (l.isSpace_close d) (.of_head ?_)
  rcases hc with hc | hc
  · exact .inr (.inl hc)
  · exact .inr (.inr (.inl hc))

/-! ### Lengths -/

theorem length_le_renderItems (d : Nat) (vs : List Value) :
    vs.length ≤ (l.renderItems d vs).length ∧
      ∀ v ∈ vs, (l.render (d + 1) v).length ≤ (l.renderItems d vs).length := by
  induction vs with
  | nil => simp
  | cons w vs ih =>
      simp only [renderItems, List.length_cons, List.length_append, List.cons_append]
      refine ⟨by omega, fun v hv => ?_⟩
      rcases List.mem_cons.mp hv with rfl | hv
      · omega
      · have := ih.2 v hv
        omega

theorem length_le_quoted (s : String) : s.toList.length + 2 ≤ (quoted s).length := by
  have := length_le_length_flatMap escapeChar_ne_nil s.toList
  simp only [quoted, List.length_cons, List.length_append, List.length_nil, List.cons_append]
  omega

theorem length_le_renderMembers (d : Nat) (ms : List Member) :
    ms.length ≤ (l.renderMembers d ms).length ∧
      ∀ m ∈ ms, m.1.toList.length ≤ (l.renderMembers d ms).length ∧
        (l.render (d + 1) m.2).length ≤ (l.renderMembers d ms).length := by
  induction ms with
  | nil => simp
  | cons n ms ih =>
      have hn := length_le_quoted n.1
      simp only [renderMembers, List.length_cons, List.length_append, List.cons_append]
      refine ⟨by omega, fun m hm => ?_⟩
      rcases List.mem_cons.mp hm with rfl | hm
      · omega
      · have := ih.2 m hm
        omega

/-! ### Values -/

theorem readItems_renderItems {value : List Char → Except Mishap (Value × List Char)}
    {depth d : Nat} {vs : List Value} (hvs : ∀ v ∈ vs, Plain depth v)
    (hvalue : ∀ v ∈ vs, ∀ rest, EndsValue rest →
      value (l.render (d + 1) v ++ rest) = .ok (normal v, rest))
    {n : Nat} (hn : vs.length < n) (rest : List Char) :
    readItems value n false (l.renderItems d vs ++ (l.close d ++ ']' :: rest)) =
      .ok (normalItems vs, rest) := by
  induction vs generalizing n with
  | nil =>
      obtain ⟨n, rfl⟩ := Nat.exists_eq_add_one_of_ne_zero (Nat.ne_zero_of_lt hn)
      exact readItems_close n false (l.isSpace_close d) rest
  | cons v vs ih =>
      obtain ⟨n, rfl⟩ := Nat.exists_eq_add_one_of_ne_zero (Nat.ne_zero_of_lt hn)
      obtain ⟨c, s, hs, hsp, hclose⟩ := l.render_head (hvs v (by simp)) (d + 1)
      have hend := l.endsValue_renderItems d vs (l.endsValue_close d (.inl rfl) rest)
      have hv := hvalue v (by simp) _ hend
      have hrest := ih (fun w hw => hvs w (by simp [hw])) (fun w hw => hvalue w (by simp [hw]))
        (Nat.lt_of_succ_lt_succ hn)
      rw [hs, List.cons_append] at hv
      rw [renderItems, hs]
      simp only [List.cons_append, List.append_assoc]
      exact readItems_next (l.isSpace_item d) hsp hclose hv hrest

theorem readMembers_renderMembers {value : List Char → Except Mishap (Value × List Char)}
    {steps d : Nat} {ms : List Member} (hkey : ∀ m ∈ ms, m.1.toList.length < steps)
    (hvalue : ∀ m ∈ ms, ∀ rest, EndsValue rest →
      value (l.colon ++ (l.render (d + 1) m.2 ++ rest)) = .ok (normal m.2, rest))
    {n : Nat} (hn : ms.length < n) (rest : List Char) :
    readMembers value steps n false (l.renderMembers d ms ++ (l.close d ++ '}' :: rest)) =
      .ok (normalMembers ms, rest) := by
  induction ms generalizing n with
  | nil =>
      obtain ⟨n, rfl⟩ := Nat.exists_eq_add_one_of_ne_zero (Nat.ne_zero_of_lt hn)
      exact readMembers_close steps n false (l.isSpace_close d) rest
  | cons m ms ih =>
      obtain ⟨n, rfl⟩ := Nat.exists_eq_add_one_of_ne_zero (Nat.ne_zero_of_lt hn)
      have hend := l.endsValue_renderMembers d ms (l.endsValue_close d (.inr rfl) rest)
      have hm := readMember_quoted (hkey m (by simp)) (hvalue m (by simp) _ hend)
      have hrest := ih (fun w hw => hkey w (by simp [hw])) (fun w hw => hvalue w (by simp [hw]))
        (Nat.lt_of_succ_lt_succ hn)
      rw [renderMembers]
      simp only [List.cons_append, List.append_assoc]
      exact readMembers_next (l.isSpace_item d) hm hrest

/-- With the given steps the value is read back before anything that may follow a value. -/
def ReadsBack (steps depth : Nat) (v : Value) : Prop :=
  ∀ d rest, (l.render d v).length < steps → EndsValue rest →
    readValue steps depth (l.render d v ++ rest) = .ok (normal v, rest)

theorem readsBack_nat (steps depth : Nat) (n : UInt64) :
    l.ReadsBack steps depth (.number (.nat n)) := by
  intro d rest _ hrest
  obtain ⟨c, s, hs, hc⟩ := exists_toDigits_eq_cons n.toNat
  have hread := readNumber_toDigits n.toNat_lt hrest
  change readValue steps depth (Nat.toDigits 10 n.toNat ++ rest) = _
  rw [hs, List.cons_append] at hread ⊢
  rw [readValue_digit steps depth hc, hread, UInt64.ofNat_toNat]
  rfl

theorem readsBack_string (steps depth : Nat) (s : String) :
    l.ReadsBack steps depth (.string s) := by
  intro d rest hlen _
  have hs := length_le_quoted s
  simp only [render] at hlen ⊢
  rw [quoted_append, readValue_quote, readString_quoted (by omega)]
  rfl

theorem readsBack_array {steps depth : Nat} {vs : List Value} (hvs : ∀ v ∈ vs, Plain depth v)
    (ih : ∀ v ∈ vs, l.ReadsBack steps depth v) : l.ReadsBack steps (depth + 1) (.array vs) := by
  intro d rest hlen hrest
  obtain ⟨n, rfl⟩ := Nat.exists_eq_add_one_of_ne_zero (Nat.ne_zero_of_lt hlen)
  cases vs with
  | nil =>
      change readValue (n + 1) (depth + 1) ('[' :: ([] ++ ']' :: rest)) = _
      rw [readValue_bracket, readItems_close n true (by simp)]
      rfl
  | cons v vs =>
      have hitems := l.length_le_renderItems d vs
      simp only [render, List.length_cons, List.length_append, List.cons_append] at hlen
      have hend := l.endsValue_renderItems d vs (l.endsValue_close d (.inl rfl) rest)
      have hv := ih v (by simp) (d + 1) _ (by omega) hend
      have hrest := l.readItems_renderItems (fun w (hw : w ∈ vs) => hvs w (by simp [hw]))
        (fun w hw r hr => ih w (by simp [hw]) (d + 1) r (by have := hitems.2 w hw; omega) hr)
        (n := n) (by omega) rest
      obtain ⟨c, s, hs, hsp, hclose⟩ := l.render_head (hvs v (by simp)) (d + 1)
      rw [hs, List.cons_append] at hv
      rw [render, hs]
      simp only [List.cons_append, List.append_assoc, List.nil_append]
      rw [readValue_bracket, readItems_first (l.isSpace_item d) hsp hclose hv hrest]
      rfl

theorem readsBack_object {steps depth : Nat} {ms : List Member}
    (ih : ∀ m ∈ ms, l.ReadsBack steps depth m.2) : l.ReadsBack steps (depth + 1) (.object ms) := by
  intro d rest hlen hrest
  obtain ⟨n, rfl⟩ := Nat.exists_eq_add_one_of_ne_zero (Nat.ne_zero_of_lt hlen)
  cases ms with
  | nil =>
      change readValue (n + 1) (depth + 1) ('{' :: ([] ++ '}' :: rest)) = _
      rw [readValue_brace, readMembers_close (n + 1) n true (by simp)]
      rfl
  | cons m ms =>
      have hkey := length_le_quoted m.1
      have hmembers := l.length_le_renderMembers d ms
      simp only [render, List.length_cons, List.length_append, List.cons_append] at hlen
      have hvalue (w : Member) (hw : w ∈ m :: ms) (hl : (l.render (d + 1) w.2).length < n + 1)
          (r : List Char) (hr : EndsValue r) :
          readValue (n + 1) depth (l.colon ++ (l.render (d + 1) w.2 ++ r)) =
            .ok (normal w.2, r) := by
        rw [readValue_append l.isSpace_colon]
        exact ih w hw (d + 1) r hl hr
      have hend := l.endsValue_renderMembers d ms (l.endsValue_close d (.inr rfl) rest)
      have hm := readMember_quoted (show m.1.toList.length < n + 1 by omega)
        (hvalue m (by simp) (by omega) _ hend)
      have hrest := l.readMembers_renderMembers
        (fun w (hw : w ∈ ms) =>
          show w.1.toList.length < n + 1 by have := hmembers.2 w hw; omega)
        (fun w hw => hvalue w (by simp [hw]) (by have := hmembers.2 w hw; omega))
        (n := n) (by omega) rest
      rw [render]
      simp only [List.cons_append, List.append_assoc, List.nil_append]
      rw [readValue_brace, readMembers_first (l.isSpace_item d) hm hrest]
      rfl

theorem readsBack_of_plain (steps : Nat) {depth : Nat} {v : Value} (hv : Plain depth v) :
    l.ReadsBack steps depth v := by
  induction hv with
  | null =>
      intro d rest _ _
      rw [readValue]
      rfl
  | bool _ b =>
      intro d rest _ _
      cases b <;> (rw [readValue]; rfl)
  | nat depth n => exact l.readsBack_nat steps depth n
  | string depth s => exact l.readsBack_string steps depth s
  | array hvs ih => exact l.readsBack_array hvs ih
  | object _ ih => exact l.readsBack_object ih

end Spacing

/-! ### Texts -/

namespace Value

variable {v : Value} (hv : Plain depthLimit v)
include hv

theorem parse_render (l : Spacing) : parse (String.ofList (l.render 0 v)) = .ok (normal v) := by
  have h := l.readsBack_of_plain _ hv 0 [] (Nat.lt_succ_self _) endsValue_nil
  rw [List.append_nil] at h
  simp only [parse, String.toList_ofList, h, bind, Except.bind]
  rfl

theorem parse_compact : parse v.compact = .ok (normal v) := by
  rw [compact, ← Spacing.render_none 0]
  exact parse_render hv .none

theorem parse_pretty : parse v.pretty = .ok (normal v) := by
  rw [pretty, ← Spacing.render_lines]
  exact parse_render hv .lines

end Value

end Blueprint.Json
