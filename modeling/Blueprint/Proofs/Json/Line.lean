import Blueprint.Proofs.Json.Members
import Blueprint.Proofs.Json.RoundTrip
import Blueprint.Proofs.Text.Lines

/-!
# Records as lines

A compact text has no control character, so it is one line. A record is read back from its line as
the record of the values that are read back from its members.
-/

namespace Blueprint.Json

/-! ### Compact texts are lines -/

theorem space_le_escapeChar {c d : Char} (hd : d ∈ escapeChar c) : 0x20 ≤ d.toNat := by
  have hdigit : ∀ n < 16, 0x20 ≤ (Text.hexDigit n).toNat := by decide
  unfold escapeChar at hd
  split at hd
  case h_8 =>
    split_ifs at hd with hc
    · simp only [List.mem_cons, List.not_mem_nil, or_false] at hd
      rcases hd with rfl | rfl | rfl | rfl | rfl | rfl
      any_goals decide
      · exact hdigit _ (by omega)
      · exact hdigit _ (by omega)
    · rw [List.mem_singleton] at hd
      subst hd
      exact Nat.not_lt.mp hc
  all_goals
    simp only [List.mem_cons, List.not_mem_nil, or_false] at hd
    rcases hd with rfl | rfl <;> decide

theorem space_le_quoted {s : String} {c : Char} (hc : c ∈ quoted s) : 0x20 ≤ c.toNat := by
  simp only [quoted, List.mem_append, List.mem_cons, List.mem_flatMap, List.not_mem_nil,
    or_false] at hc
  obtain (rfl | ⟨d, -, hc⟩) | rfl := hc
  · decide
  · exact space_le_escapeChar hc
  · decide

namespace Value

theorem forall_mem_compactItems {p : Char → Prop} (hcomma : p ',') {vs : List Value}
    (h : ∀ v ∈ vs, ∀ c ∈ v.compactChars, p c) : ∀ c ∈ compactItems vs, p c := by
  induction vs with
  | nil => simp [compactItems]
  | cons v vs ih =>
      rw [List.forall_mem_cons] at h
      cases vs with
      | nil => exact h.1
      | cons w vs =>
          rw [compactItems, List.forall_mem_append, List.forall_mem_cons]
          · exact ⟨h.1, hcomma, ih h.2⟩
          · simp

theorem forall_mem_compactMembers {p : Char → Prop} (hcomma : p ',') (hcolon : p ':')
    (hkey : ∀ s, ∀ c ∈ quoted s, p c) {ms : List Member}
    (h : ∀ m ∈ ms, ∀ c ∈ m.2.compactChars, p c) : ∀ c ∈ compactMembers ms, p c := by
  induction ms with
  | nil => simp [compactMembers]
  | cons m ms ih =>
      obtain ⟨k, v⟩ := m
      rw [List.forall_mem_cons] at h
      cases ms with
      | nil =>
          rw [compactMembers, List.forall_mem_append, List.forall_mem_cons]
          exact ⟨hkey k, hcolon, h.1⟩
      | cons n ms =>
          rw [compactMembers, List.forall_mem_append, List.forall_mem_append, List.forall_mem_cons,
            List.forall_mem_cons]
          · exact ⟨⟨hkey k, hcolon, h.1⟩, hcomma, ih h.2⟩
          · simp

theorem space_le_compactChars {depth : Nat} {v : Value} (hv : Plain depth v) :
    ∀ c ∈ v.compactChars, 0x20 ≤ c.toNat := by
  induction hv with
  | null => simp [compactChars]
  | bool _ b => cases b <;> simp [compactChars]
  | nat _ n =>
      intro c hc
      have hdigit : c.isDigit := isDigit_of_mem_toDigits hc
      have hzero := (Char.isDigit_iff_toNat.mp hdigit).1
      exact Nat.le_trans (by decide) hzero
  | string _ s => exact fun c hc => space_le_quoted hc
  | array _ ih =>
      rw [compactChars, List.forall_mem_append, List.forall_mem_cons]
      exact ⟨⟨by decide, forall_mem_compactItems (by decide) ih⟩, by simp⟩
  | object _ ih =>
      rw [compactChars, List.forall_mem_append, List.forall_mem_cons]
      exact ⟨⟨by decide, forall_mem_compactMembers (by decide) (by decide)
        (fun s c hc => space_le_quoted hc) ih⟩, by simp⟩

theorem isLine_compact {depth : Nat} {v : Value} (hv : Plain depth v) :
    Text.IsLine v.compact := by
  intro c hc
  rw [compact, String.toList_ofList] at hc
  have hspace := space_le_compactChars hv c hc
  constructor <;> (rintro rfl; exact absurd hspace (by decide))

end Value

/-! ### Records -/

theorem normalMembers_eq_map (ms : List Member) :
    normalMembers ms = ms.map (Prod.map id normal) := by
  induction ms with
  | nil => rfl
  | cons m ms ih => rw [normalMembers, ih, List.map_cons, Prod.map, id]

theorem normal_record (ms : List Member) :
    normal (.record ms) = .record (normalMembers ms) := by
  rw [Value.record, normal, normalMembers_eq_map, map_sortMembers, Value.record,
    sortMembers_of_sorted (sorted_sortMembers _), ← normalMembers_eq_map, Value.record]

theorem plain_nat (depth n : Nat) : Plain depth (.nat n) := .nat depth _

theorem plain_record {depth : Nat} {ms : List Member} (h : ∀ m ∈ ms, Plain depth m.2) :
    Plain (depth + 1) (.record ms) :=
  .object fun m hm => h m (mem_of_mem_sortMembers hm)

/-- A record is read back from its compact text, which is one line. -/
theorem record_reads_back {ms : List Member} (h : ∀ m ∈ ms, Plain (depthLimit - 1) m.2) :
    Text.IsLine (Value.record ms).compact ∧
      Value.parse (Value.record ms).compact = .ok (.record (normalMembers ms)) := by
  have hplain : Plain depthLimit (.record ms) := plain_record h
  exact ⟨Value.isLine_compact hplain, by rw [Value.parse_compact hplain, normal_record]⟩

end Blueprint.Json
