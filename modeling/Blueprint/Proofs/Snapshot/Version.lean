import Blueprint.Proofs.Json.Gap
import Blueprint.Proofs.Snapshot.Records
import Blueprint.Proofs.Snapshot.RoundTrip
import Mathlib.Data.List.TakeWhile

/-!
# The version of a snapshot

A snapshot is drafted with the version in its heading left open. Whatever number literal is written
there, the snapshot is read with exactly that version when the literal is nothing but digits and
below `2 ^ 32`, and is invalid otherwise.
-/

namespace Blueprint

def Graph.withVersion (g : Graph) (version : UInt32) : Graph :=
  { g with heading := { g.heading with version } }

namespace Snapshot

open Json Snapshot.Part

/-- The text of a snapshot whose version is left open. -/
structure Draft where
  lead : List Char
  outer : Gap (depthLimit - 1)
  inner : Gap (depthLimit - 2)
  trail : List Char
  lead_blank : ∀ c ∈ lead, isSpace c
  outer_key : outer.key = "meta"
  inner_key : inner.key = "version"
  trail_blank : ∀ c ∈ trail, isSpace c

namespace Draft

variable (d : Draft) {l : Literal} {v w : Value} {g : Graph}

def chars (l : Literal) : List Char :=
  d.lead ++ (d.outer.chars (d.inner.chars l.chars) ++ d.trail)

def text (l : Literal) : String := String.ofList (d.chars l)

/-- What stands after the version. -/
def tail : List Char := d.inner.tail (d.outer.tail d.trail)

def value (v : Value) : Value := d.outer.value (d.inner.value v)

/-! ### Reading -/

theorem endsValue_tail : EndsValue d.tail := d.inner.endsValue_tail

theorem length_chars_lt (l : Literal) :
    (d.outer.chars (d.inner.chars l.chars)).length < (d.chars l).length + 1 ∧
      (d.inner.chars l.chars).length < (d.chars l).length + 1 := by
  simp only [chars, Gap.chars, List.length_append, List.length_cons]
  omega

theorem parse_text (h : readValue ((d.chars l).length + 1) (depthLimit - 2) (l.chars ++ d.tail) =
    .ok (v, d.tail)) : Value.parse (d.text l) = .ok (d.value v) := by
  obtain ⟨houter, hinner⟩ := d.length_chars_lt l
  refine parse_eq_ok_iff.mpr ⟨d.trail, ?_, List.dropWhile_eq_nil_iff.mpr d.trail_blank⟩
  rw [text, String.toList_ofList]
  nth_rewrite 2 [chars]
  rw [readValue_append d.lead_blank]
  exact d.outer.readValue_chars houter (d.inner.readValue_chars hinner h)

theorem parse_text_eq_error {e : Mishap}
    (h : readValue ((d.chars l).length + 1) (depthLimit - 2) (l.chars ++ d.tail) = .error e) :
    Value.parse (d.text l) = .error e := by
  obtain ⟨houter, hinner⟩ := d.length_chars_lt l
  have hread : readValue ((d.chars l).length + 1) depthLimit (d.chars l) = .error e := by
    nth_rewrite 2 [chars]
    rw [readValue_append d.lead_blank]
    exact d.outer.readValue_chars_eq_error houter (d.inner.readValue_chars_eq_error hinner h)
  rw [Value.parse, text, String.toList_ofList]
  simp only [hread, error_bind]

/-- A literal that is put in is read as a number, or nothing is read at all. -/
theorem parse_text_cases (l : Literal) : (∃ e, Value.parse (d.text l) = .error e) ∨
    ∃ n, Value.parse (d.text l) = .ok (d.value (.number n)) ∧
      ∀ k, n = .nat k → l.IsCount ∧ k.toNat = l.whole := by
  cases h : readValue ((d.chars l).length + 1) (depthLimit - 2) (l.chars ++ d.tail) with
  | error e => exact .inl ⟨e, d.parse_text_eq_error h⟩
  | ok p =>
      obtain ⟨v, r⟩ := p
      obtain ⟨rfl, n, rfl, hn⟩ := l.of_readValue_eq_ok d.endsValue_tail h
      exact .inr ⟨n, d.parse_text h, hn⟩

theorem parse_text_of_isCount (hl : l.IsCount) (hlt : l.whole < UInt64.size) :
    Value.parse (d.text l) = .ok (d.value (.nat l.whole)) :=
  d.parse_text (l.readValue_of_isCount hl hlt d.endsValue_tail)

/-! ### Decoding -/

theorem member?_meta (v : Value) : (d.value v).member? "meta" = some (d.inner.value v) := by
  rw [← d.outer_key]
  exact d.outer.member?_value_self _

theorem member?_version (v : Value) : (d.inner.value v).member? "version" = some v := by
  rw [← d.inner_key]
  exact d.inner.member?_value_self v

theorem isNamed_value (v w : Value) : isNamed (d.value v) = isNamed (d.value w) := by
  have hname : (d.inner.value v).member? "name" = (d.inner.value w).member? "name" :=
    d.inner.member?_value_of_ne (by simp [d.inner_key]) v w
  simp only [isNamed, member?_meta, Option.bind_some, hname]

theorem value?_graph {key : String} (h : key ≠ "meta") (v w : Value) :
    graph.value? (d.value v) key = graph.value? (d.value w) key :=
  congrArg (·.or (graph.default? key))
    (d.outer.member?_value_of_ne (by rwa [d.outer_key]) (d.inner.value v) (d.inner.value w))

theorem value?_meta (v : Value) :
    graph.value? (d.value v) "meta" = some (d.inner.value v) := by
  change ((d.value v).member? "meta").or _ = _
  rw [member?_meta, Option.some_or]

theorem value?_name (v w : Value) : heading.value? (d.inner.value v) "name" =
    heading.value? (d.inner.value w) "name" :=
  congrArg (·.or (heading.default? "name"))
    (d.inner.member?_value_of_ne (by simp [d.inner_key]) v w)

theorem value?_version (v : Value) :
    heading.value? (d.inner.value v) "version" = some v := by
  change ((d.inner.value v).member? "version").or _ = _
  rw [member?_version, Option.some_or]

/-- The version that is put in becomes that of the graph, and nothing else changes. -/
theorem decode_value {version : UInt32} (h : Graph.decode (d.value v) = .ok g)
    (hw : decodeWord w = .ok version) :
    Graph.decode (d.value w) = .ok (g.withVersion version) := by
  obtain ⟨hvalueObjects, hentities, haggregates, hrepositories, huseCases, hheading, -⟩ :=
    Graph.decode_eq_ok_iff.mp h
  rw [value?_meta, yields_some] at hheading
  obtain ⟨hname, -⟩ := Heading.decode_eq_ok_iff.mp hheading
  refine Graph.decode_eq_ok_iff.mpr ⟨?_, ?_, ?_, ?_, ?_, ?_, trivial⟩
  · rwa [d.value?_graph (by decide) w v]
  · rwa [d.value?_graph (by decide) w v]
  · rwa [d.value?_graph (by decide) w v]
  · rwa [d.value?_graph (by decide) w v]
  · rwa [d.value?_graph (by decide) w v]
  · rw [value?_meta, yields_some]
    refine Heading.decode_eq_ok_iff.mpr ⟨?_, ?_, trivial⟩
    · rwa [d.value?_name w v]
    · rwa [value?_version, yields_some]

theorem decodeWord_of_decode (h : Graph.decode (d.value v) = .ok g) :
    decodeWord v = .ok g.heading.version := by
  obtain ⟨-, -, -, -, -, hheading, -⟩ := Graph.decode_eq_ok_iff.mp h
  rw [value?_meta, yields_some] at hheading
  obtain ⟨-, hversion, -⟩ := Heading.decode_eq_ok_iff.mp hheading
  rwa [value?_version, yields_some] at hversion

end Draft

theorem decodeWord_nat {n : Nat} (hn : n < UInt32.size) :
    ∃ version : UInt32, version.toNat = n ∧ decodeWord (.nat n) = .ok version := by
  have htoNat : (UInt32.ofNat n).toNat = n := UInt32.toNat_ofNat_of_lt' hn
  refine ⟨UInt32.ofNat n, htoNat, ?_⟩
  have hnormal := decodeWord_normal (UInt32.ofNat n)
  rwa [htoNat] at hnormal

theorem lt_of_decodeWord {n : Number} {version : UInt32}
    (h : decodeWord (.number n) = .ok version) : ∃ k, n = .nat k ∧ k.toNat < UInt32.size := by
  cases n with
  | nat k =>
      rw [decodeWord] at h
      split_ifs at h with hk
      · exact ⟨k, rfl, hk⟩
  | negative => cases h
  | double => cases h

/-! ### Refusals -/

theorem load_of_malformed {text : String} {e : Mishap} (h : Value.parse text = .error e) :
    load text = .error (.invalidSnapshot (e.describe text)) := by
  rw [load, read, h]
  rfl

theorem load_of_misfit {text : String} {v : Value} {m : Misfit} (hread : Value.parse text = .ok v)
    (hnamed : isNamed v) (h : Graph.decode v = .error m) :
    load text = .error (.invalidSnapshot m.message) := by
  have hvalue : ofValue v = .error (.misfit m) := by
    rw [ofValue, if_pos hnamed, h]
    rfl
  rw [load, read, hread]
  exact congrArg (Except.mapError (Refusal.failure text)) hvalue

/-! ### Versions -/

/-- A snapshot that is well-formed apart from its version is read if and only if the version is
nothing but digits and below `2 ^ 32`, and then with exactly that version. -/
theorem load_version (d : Draft) {g : Graph} (hload : load (d.text (.ofNat 1)) = .ok g)
    (l : Literal) :
    (l.IsCount ∧ l.whole < UInt32.size → ∃ version : UInt32, version.toNat = l.whole ∧
      load (d.text l) = .ok (g.withVersion version)) ∧
    (¬ (l.IsCount ∧ l.whole < UInt32.size) →
      ∃ reason, load (d.text l) = .error (.invalidSnapshot reason)) := by
  obtain ⟨u, hu, hg⟩ := load_eq_ok_iff.mp hload
  have hone := d.parse_text_of_isCount (l := .ofNat 1) ⟨rfl, rfl, rfl⟩ (by decide)
  obtain rfl : d.value (.nat 1) = u := Except.ok.inj (hone.symm.trans hu)
  obtain ⟨hnamed, hdecode⟩ := ofValue_eq_ok_iff.mp hg
  constructor
  · rintro ⟨hcount, hlt⟩
    obtain ⟨version, hversion, hword⟩ := decodeWord_nat hlt
    have hread := d.parse_text_of_isCount hcount (Nat.lt_trans hlt (by decide))
    refine ⟨version, hversion, load_eq_ok_iff.mpr ⟨_, hread, ofValue_eq_ok_iff.mpr ⟨?_, ?_⟩⟩⟩
    · rwa [d.isNamed_value _ (.nat 1)]
    · exact d.decode_value hdecode hword
  · intro hnot
    obtain ⟨e, he⟩ | ⟨n, hread, hn⟩ := d.parse_text_cases l
    · exact ⟨_, load_of_malformed he⟩
    · have hnamed' : isNamed (d.value (.number n)) := by rwa [d.isNamed_value _ (.nat 1)]
      cases hdecode' : Graph.decode (d.value (.number n)) with
      | error m => exact ⟨_, load_of_misfit hread hnamed' hdecode'⟩
      | ok g' =>
          -- What fits a version can only come from digits alone.
          obtain ⟨k, hk, hlt⟩ := lt_of_decodeWord (d.decodeWord_of_decode hdecode')
          obtain ⟨hcount, hwhole⟩ := hn k hk
          exact absurd ⟨hcount, hwhole ▸ hlt⟩ hnot

def fares : Draft where
  lead := []
  outer := .compact [.compact "entities" (v := .array []) (.array (by simp))] "meta" [] (by simp)
  inner := .compact [.compact "name" (.string _ "Fares")] "version" [.compact "note" (.null _)]
    (by simp [MemberText.compact])
  trail := ['\n']
  lead_blank := blank_nil
  outer_key := rfl
  inner_key := rfl
  trail_blank := by simp [isSpace]

theorem load_fares :
    load (fares.text (.ofNat 1)) = .ok ⟨[], [], [], [], [], ⟨"Fares", 1⟩⟩ :=
  load_eq_ok_iff.mpr ⟨_, fares.parse_text_of_isCount ⟨rfl, rfl, rfl⟩ (by decide), rfl⟩

/-- The largest version is read, and neither the next one nor one with an exponent. -/
theorem load_version_of_fares :
    load (fares.text (.ofNat 1)) = .ok ⟨[], [], [], [], [], ⟨"Fares", 1⟩⟩ ∧
    (∃ version : UInt32, version.toNat = 4294967295 ∧
      load (fares.text (.ofNat 4294967295)) = .ok ⟨[], [], [], [], [], ⟨"Fares", version⟩⟩) ∧
    (∃ reason, load (fares.text (.ofNat 4294967296)) = .error (.invalidSnapshot reason)) ∧
    ∃ reason, load (fares.text ⟨false, 1, none, some ⟨false, none, ⟨['0'], by simp, by simp⟩⟩⟩) =
      .error (.invalidSnapshot reason) := by
  refine ⟨load_fares, ?_, ?_, ?_⟩
  · exact (load_version fares load_fares (.ofNat 4294967295)).1 ⟨⟨rfl, rfl, rfl⟩, by decide⟩
  · refine (load_version fares load_fares (.ofNat 4294967296)).2 fun h => ?_
    exact absurd h.2 (by decide)
  · refine (load_version fares load_fares _).2 fun h => ?_
    cases h.1.2.2

end Snapshot

end Blueprint
