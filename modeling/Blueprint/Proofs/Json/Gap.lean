import Blueprint.Proofs.Json.Locality

/-!
# Objects with a gap

The text of an object in which the value of one member is left open. Whatever text is put into the
gap, the object is read as its members around the value that is read there, and when no value is
read there the object is not read either.
-/

namespace Blueprint.Json

theorem blank_nil : ∀ c ∈ ([] : List Char), isSpace c := by simp

/-- The text of one member and the blanks around it, where containers nest at most `depth` deep. -/
structure MemberText (depth : Nat) where
  chars : List Char
  member : Member
  reads : ∃ r, readMember (readValue (chars.length + 1) depth) (chars.length + 1)
    (skipSpace chars) = .ok (member, r) ∧ ∀ c ∈ r, isSpace c

/-- The text of an object up to the value of one of its members, and from there on. -/
structure Gap (depth : Nat) where
  before : List (MemberText depth)
  key : String
  lead : List Char
  trail : List Char
  after : List (MemberText depth)
  lead_reads : ∃ s t b, skipSpace lead = '"' :: s ∧ readString (lead.length + 1) s = .ok (key, t) ∧
    skipSpace t = ':' :: b ∧ ∀ c ∈ b, isSpace c
  trail_blank : ∀ c ∈ trail, isSpace c
  key_last : ∀ m ∈ after, m.member.1 ≠ key

/-- The text before a member is an end of the members before it, or the opening brace. -/
def Enters (first : Bool) (s body : List Char) : Prop :=
  if first then s = body else ∃ b, (∀ c ∈ b, isSpace c) ∧ s = b ++ ',' :: body

section Members

variable {steps depth n : Nat} {first : Bool} {s body u : List Char}

theorem starts_of_enters {c : Char} {t : List Char} (h : Enters first s body)
    (hbody : skipSpace body = c :: t) (hclose : c ≠ '}') : Starts '}' first s (c :: t) := by
  refine ⟨c, t, rfl, hclose, ?_⟩
  cases first with
  | true =>
      obtain rfl : s = body := h
      exact hbody
  | false =>
      obtain ⟨b, hb, rfl⟩ : ∃ b, (∀ c ∈ b, isSpace c) ∧ s = b ++ ',' :: body := h
      refine ⟨body, ?_, hbody⟩
      rw [skipSpace_append hb, skipSpace_cons (by decide)]

theorem readMembers_of_starts {value : List Char → Except Mishap (Value × List Char)}
    {t : List Char} (h : Starts '}' first s t) :
    readMembers value steps (n + 1) first s = readMembersFrom value steps n t := by
  obtain ⟨c, t, rfl, hclose, h⟩ := h
  cases first with
  | true =>
      simp only [readMembers, if_true] at h ⊢
      simp only [h, if_neg hclose]
      rfl
  | false =>
      obtain ⟨r, hr, ht⟩ := h
      simp only [readMembers, hr, ht, if_neg hclose]
      rfl

theorem readMembers_member (m : MemberText depth) (hm : m.chars.length < steps)
    (henter : Enters first s (m.chars ++ u)) (hu : EndsValue u) :
    ∃ r, (∀ c ∈ r, isSpace c) ∧ readMembers (readValue steps depth) steps (n + 1) first s =
      (readMembers (readValue steps depth) steps n false (r ++ u)).map
        fun p => (m.member :: p.1, p.2) := by
  obtain ⟨r, hread, hr⟩ := m.reads
  obtain ⟨t, k, w, x, v, hquote, -⟩ := readMember_eq_ok_iff.mp hread
  have hextends := extends_readMember (extends_readValue hm depth) hm hread hu
  have hstarts := starts_of_enters henter (skipSpace_append_of_cons hquote) (by decide)
  rw [hquote, List.cons_append] at hextends
  refine ⟨r, hr, ?_⟩
  rw [readMembers_of_starts hstarts, readMembersFrom, hextends, ok_bind]
  simp only
  cases readMembers (readValue steps depth) steps n false (r ++ u) <;> rfl

theorem readMembers_before (ms : List (MemberText depth))
    (hms : (ms.flatMap (·.chars ++ [','])).length < steps)
    (henter : Enters first s (ms.flatMap (·.chars ++ [',']) ++ body)) :
    ∃ first' s', Enters first' s' body ∧
      readMembers (readValue steps depth) steps (n + ms.length) first s =
        (readMembers (readValue steps depth) steps n first' s').map
          fun p => (ms.map MemberText.member ++ p.1, p.2) := by
  induction ms generalizing first s with
  | nil =>
      refine ⟨first, s, henter, ?_⟩
      cases readMembers (readValue steps depth) steps n first s <;> rfl
  | cons m ms ih =>
      simp only [List.flatMap_cons, List.append_assoc, List.cons_append, List.nil_append,
        List.length_append, List.length_cons] at hms henter
      have hends : EndsValue (',' :: (ms.flatMap (·.chars ++ [',']) ++ body)) :=
        .of_head (.inl rfl)
      have hm : m.chars.length < steps := by omega
      obtain ⟨r, hr, hm⟩ := readMembers_member (n := n + ms.length) m hm henter hends
      have henter' : Enters false (r ++ ',' :: (ms.flatMap (·.chars ++ [',']) ++ body))
          (ms.flatMap (·.chars ++ [',']) ++ body) := ⟨r, hr, rfl⟩
      obtain ⟨first', s', henter', hms'⟩ := ih (by omega) henter'
      refine ⟨first', s', henter', ?_⟩
      rw [List.length_cons, ← Nat.add_assoc, hm, hms']
      cases readMembers (readValue steps depth) steps n first' s' <;> rfl

theorem endsValue_after (ms : List (MemberText depth)) (rest : List Char) :
    EndsValue (ms.flatMap (',' :: ·.chars) ++ '}' :: rest) := by
  cases ms with
  | nil => exact .of_head (.inr (.inr (.inl rfl)))
  | cons m ms => exact .of_head (.inl rfl)

theorem readMembers_after (ms : List (MemberText depth)) {b rest : List Char}
    (hb : ∀ c ∈ b, isSpace c) (hms : (ms.flatMap (',' :: ·.chars)).length < steps)
    (hn : ms.length < n) :
    readMembers (readValue steps depth) steps n false
      (b ++ (ms.flatMap (',' :: ·.chars) ++ '}' :: rest)) =
        .ok (ms.map MemberText.member, rest) := by
  induction ms generalizing n b with
  | nil =>
      obtain ⟨n, rfl⟩ := Nat.exists_eq_add_one_of_ne_zero (Nat.ne_zero_of_lt hn)
      exact readMembers_close steps n false hb rest
  | cons m ms ih =>
      obtain ⟨n, rfl⟩ := Nat.exists_eq_add_one_of_ne_zero (Nat.ne_zero_of_lt hn)
      simp only [List.flatMap_cons, List.length_append, List.length_cons] at hms hn
      simp only [List.flatMap_cons, List.append_assoc, List.cons_append]
      have henter : Enters false (b ++ ',' :: (m.chars ++ (ms.flatMap (',' :: ·.chars) ++
          '}' :: rest))) (m.chars ++ (ms.flatMap (',' :: ·.chars) ++ '}' :: rest)) :=
        ⟨b, hb, rfl⟩
      have hm : m.chars.length < steps := by omega
      obtain ⟨r, hr, hm⟩ := readMembers_member (n := n) m hm henter (endsValue_after ms rest)
      rw [hm, ih hr (by omega) (by omega)]
      rfl

end Members

namespace Gap

variable {steps depth : Nat} (g : Gap depth) {x rest : List Char} {v : Value}

def head : List Char := g.before.flatMap (·.chars ++ [',']) ++ g.lead

/-- What stands after the gap. -/
def tail (rest : List Char) : List Char :=
  g.trail ++ (g.after.flatMap (',' :: ·.chars) ++ '}' :: rest)

/-- The text of the object with the given one in the gap. -/
def chars (x : List Char) : List Char := '{' :: (g.head ++ (x ++ g.tail []))

/-- The object with the given value in the gap. -/
def value (v : Value) : Value :=
  .record (g.before.map MemberText.member ++ (g.key, v) :: g.after.map MemberText.member)

theorem endsValue_tail : EndsValue (g.tail rest) :=
  .append g.trail_blank (endsValue_after g.after rest)

theorem chars_append : g.chars x ++ rest = '{' :: (g.head ++ (x ++ g.tail rest)) := by
  simp [chars, tail]

theorem readMember_lead (hlead : g.lead.length < steps) (s : List Char) :
    readMember (readValue steps depth) steps (skipSpace g.lead ++ s) =
      (readValue steps depth s).map fun p => ((g.key, p.1), p.2) := by
  obtain ⟨k, t, b, hquote, hkey, hcolon, hb⟩ := g.lead_reads
  have hkey' := readString_append (u := s) hlead hkey
  simp only [hquote, List.cons_append, readMember, hkey', ok_bind,
    skipSpace_append_of_cons hcolon, readValue_append hb]
  cases readValue steps depth s <;> rfl

theorem exists_skipSpace_lead (s : List Char) :
    ∃ t, skipSpace (g.lead ++ s) = '"' :: t ∧ skipSpace g.lead ++ s = '"' :: t := by
  obtain ⟨k, t, b, hquote, -⟩ := g.lead_reads
  exact ⟨k ++ s, skipSpace_append_of_cons hquote, by rw [hquote, List.cons_append]⟩

/-- The object is read through the gap: with what is read there, and not without. -/
theorem readMembers_head (rest : List Char) (hsteps : (g.chars x).length < steps) :
    ∃ n, g.after.length < n ∧
    readMembers (readValue steps depth) steps steps true (g.head ++ (x ++ g.tail rest)) =
      (do
        let (v, s) ← readValue steps depth (x ++ g.tail rest)
        let (ms, s) ← readMembers (readValue steps depth) steps n false s
        .ok (g.before.map MemberText.member ++ (g.key, v) :: ms, s)) := by
  have hbefore : g.before.length ≤ (g.before.flatMap (·.chars ++ [','])).length :=
    length_le_length_flatMap (by simp) _
  have hafter : g.after.length ≤ (g.after.flatMap (',' :: ·.chars)).length :=
    length_le_length_flatMap (by simp) _
  simp only [chars, head, tail, List.length_cons, List.length_append, List.length_nil] at hsteps
  obtain ⟨n, hn⟩ : ∃ n, steps = n + 1 + g.before.length :=
    ⟨steps - 1 - g.before.length, by omega⟩
  refine ⟨n, by omega, ?_⟩
  have hshort : (g.before.flatMap (·.chars ++ [','])).length < steps := by omega
  have henter : Enters true (g.head ++ (x ++ g.tail rest))
      (g.before.flatMap (·.chars ++ [',']) ++ (g.lead ++ (x ++ g.tail rest))) :=
    List.append_assoc _ _ _
  obtain ⟨first, s, henter, hread⟩ := readMembers_before (n := n + 1) g.before hshort henter
  obtain ⟨t, hlead, hlead'⟩ := g.exists_skipSpace_lead (x ++ g.tail rest)
  rw [← hn] at hread
  rw [hread, readMembers_of_starts (starts_of_enters henter hlead (by decide)), ← hlead',
    readMembersFrom, g.readMember_lead (by omega)]
  cases readValue steps depth (x ++ g.tail rest) with
  | error e => rfl
  | ok p =>
      obtain ⟨v, s⟩ := p
      change Except.map _ (readMembers (readValue steps depth) steps n false s >>= fun p => _) =
        (readMembers (readValue steps depth) steps n false s >>= fun p => _)
      cases readMembers (readValue steps depth) steps n false s <;> rfl

theorem readValue_chars (hsteps : (g.chars x).length < steps)
    (hx : readValue steps depth (x ++ g.tail rest) = .ok (v, g.tail rest)) :
    readValue steps (depth + 1) (g.chars x ++ rest) = .ok (g.value v, rest) := by
  obtain ⟨n, hn, hread⟩ := g.readMembers_head rest hsteps
  have hshort : (g.after.flatMap (',' :: ·.chars)).length < steps := by
    simp only [chars, tail, List.length_cons, List.length_append] at hsteps
    omega
  rw [hx, ok_bind] at hread
  simp only [tail, readMembers_after g.after g.trail_blank hshort hn, ok_bind] at hread
  rw [chars_append, readValue_brace, tail, hread]
  rfl

theorem readValue_chars_eq_error {e : Mishap} (hsteps : (g.chars x).length < steps)
    (hx : readValue steps depth (x ++ g.tail rest) = .error e) :
    readValue steps (depth + 1) (g.chars x ++ rest) = .error e := by
  obtain ⟨n, -, hread⟩ := g.readMembers_head rest hsteps
  rw [chars_append, readValue_brace, hread, hx]
  rfl

theorem member?_value_self (v : Value) : (g.value v).member? g.key = some v := by
  have hafter : (g.after.map MemberText.member).reverse.find? (·.1 == g.key) = none := by
    simpa using g.key_last
  rw [value, Value.member?_record, List.reverse_append, List.reverse_cons, List.append_assoc,
    List.find?_append, hafter]
  simp

theorem member?_value_of_ne {key : String} (h : key ≠ g.key) (v w : Value) :
    (g.value v).member? key = (g.value w).member? key := by
  simp [value, Value.member?_record, List.find?_append, h.symm]

end Gap

/-! ### Compact texts -/

/-- The compact text of a member. -/
def MemberText.compact {depth : Nat} (key : String) {v : Value} (hv : Plain depth v) :
    MemberText depth where
  chars := quoted key ++ ':' :: v.compactChars
  member := (key, normal v)
  reads := by
    have hkey := Spacing.length_le_quoted key
    have hread := Spacing.none.readsBack_of_plain
      ((quoted key ++ ':' :: v.compactChars).length + 1) hv 0 []
      (by simp only [Spacing.render_none, List.length_append, List.length_cons]; omega)
      endsValue_nil
    rw [List.append_nil, Spacing.render_none] at hread
    refine ⟨[], ?_, by simp⟩
    rw [quoted_append, skipSpace_cons (by decide), ← quoted_append]
    exact readMember_quoted (by simp only [List.length_append, List.length_cons]; omega) hread

/-- The compact text of an object around a gap. -/
def Gap.compact {depth : Nat} (before : List (MemberText depth)) (key : String)
    (after : List (MemberText depth)) (hafter : ∀ m ∈ after, m.member.1 ≠ key) : Gap depth where
  before := before
  key := key
  lead := quoted key ++ [':']
  trail := []
  after := after
  lead_reads := by
    have hkey := Spacing.length_le_quoted key
    refine ⟨_, [':'], [], ?_, readString_quoted ?_ [':'], ?_, by simp⟩
    · rw [quoted_append, skipSpace_cons (by decide)]
    · simp only [List.length_append]; omega
    · rw [skipSpace_cons (by decide)]
  trail_blank := blank_nil
  key_last := hafter

end Blueprint.Json
