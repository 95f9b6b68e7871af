import Blueprint.Disk.FileSystem
import Blueprint.Proofs.Path

/-!
# Spelling paths anew

A path that is spelled anew from its components has the same components. Its text is what is left
of the old one when superfluous separators and dots go, so it is not longer.
-/

namespace Blueprint

theorem sublist_intercalate {α : Type} {a : α} {as bs : List (List α)} (h : as.Sublist bs) :
    ([a].intercalate as).Sublist ([a].intercalate bs) := by
  induction h with
  | slnil => exact List.Sublist.refl _
  | @cons as bs b h ih =>
      by_cases hbs : bs = []
      · obtain rfl : as = [] := by simpa [hbs] using h
        simp
      · rw [List.intercalate_cons_of_ne_nil hbs]
        exact ih.trans (List.sublist_append_right _ _)
  | @cons_cons as bs b h ih =>
      by_cases has : as = []
      · by_cases hbs : bs = []
        · simp [has, hbs]
        · rw [has, List.intercalate_singleton, List.intercalate_cons_of_ne_nil hbs]
          simp
      · have hbs : bs ≠ [] := fun hbs => has (by simpa [hbs] using h)
        rw [List.intercalate_cons_of_ne_nil has, List.intercalate_cons_of_ne_nil hbs]
        exact ih.append_left _

theorem size_utf8Encode_le {s t : List Char} (h : s.Sublist t) :
    s.utf8Encode.size ≤ t.utf8Encode.size := by
  induction h with
  | slnil => exact Nat.le_refl _
  | cons c _ ih =>
      rw [List.utf8Encode_cons, ByteArray.size_append]
      omega
  | @cons_cons s t c _ ih =>
      rw [List.utf8Encode_cons, @List.utf8Encode_cons c t, ByteArray.size_append,
        ByteArray.size_append]
      omega

theorem utf8ByteSize_le_of_sublist {s t : String} (h : s.toList.Sublist t.toList) :
    s.utf8ByteSize ≤ t.utf8ByteSize := by
  simpa using size_utf8Encode_le h

namespace Component

/-- A component that stands for a part of its own. -/
def IsPart (c : Component) : Prop := c = .parent ∨ ∃ s, c = .name s ∧ IsName s

def part (c : Component) : List Char := c.text.toList

theorem part_of_ofPart? {part : List Char} {c : Component} (h : ofPart? part = some c) :
    c.part = part := by
  rw [ofPart?] at h
  split_ifs at h with h0 h1
  · obtain rfl := Option.some_inj.mp h
    exact h1.symm
  · obtain rfl := Option.some_inj.mp h
    exact String.toList_ofList

theorem map_part_filterMap_sublist (parts : List (List Char)) :
    ((parts.filterMap ofPart?).map part).Sublist parts := by
  induction parts with
  | nil => simp
  | cons p parts ih =>
      cases h : ofPart? p with
      | none => simpa [h] using ih.cons p
      | some c => simpa [h, part_of_ofPart? h] using ih.cons_cons p

theorem IsPart.ofPart?_part {c : Component} (hc : c.IsPart) : ofPart? c.part = some c := by
  obtain rfl | ⟨s, rfl, hs⟩ := hc
  · rfl
  · exact ofPart?_of_isName hs

theorem IsPart.not_mem_part {c : Component} (hc : c.IsPart) : '/' ∉ c.part := by
  obtain rfl | ⟨s, rfl, hs⟩ := hc
  · decide
  · exact hs.1

theorem IsPart.part_ne {c : Component} (hc : c.IsPart) : c.part ≠ [] ∧ c.part ≠ ['.'] := by
  obtain rfl | ⟨s, rfl, hs⟩ := hc
  · decide
  · exact ⟨fun h => hs.2.1 (String.toList_inj.mp h), fun h => hs.2.2.1 (String.toList_inj.mp h)⟩

section Parts

variable {cs : List Component} (h : ∀ c ∈ cs, c.IsPart)
include h

theorem not_mem_of_mem_map_part {part' : List Char} (hpart : part' ∈ cs.map part) :
    '/' ∉ part' := by
  obtain ⟨c, hc, rfl⟩ := List.mem_map.mp hpart
  exact (h c hc).not_mem_part

theorem head?_ne_root : cs.head? ≠ some .root := by
  intro hroot
  have hpart := h .root (List.mem_of_head? hroot)
  simp [IsPart] at hpart

theorem filterMap_map_part : (cs.map part).filterMap ofPart? = cs := by
  rw [List.filterMap_map]
  exact (List.filterMap_congr fun c hc => (h c hc).ofPart?_part).trans List.filterMap_some

theorem filterMap_splitOn_intercalate :
    ((['/'].intercalate (cs.map part)).splitOn '/').filterMap ofPart? = cs := by
  by_cases hcs : cs = []
  · rw [hcs]
    rfl
  · rw [List.splitOn_intercalate '/' (fun _ => not_mem_of_mem_map_part h) (by simpa using hcs),
      filterMap_map_part h]

end Parts

end Component

namespace Path

open Component

variable {p : Path} {cs : List Component}

theorem isPart_of_mem_named {c : Component} (h : c ∈ p.named) : c.IsPart := named_cases h

theorem toList_text : p.text.toList = ['/'].intercalate p.parts :=
  (List.intercalate_splitOn '/').symm

theorem toList_intercalate_text (cs : List Component) :
    ("/".intercalate (cs.map Component.text)).toList = ['/'].intercalate (cs.map part) := by
  rw [String.toList_intercalate, List.map_map]
  rfl

theorem toList_text_ofComponents (h : cs.head? ≠ some .root) :
    (ofComponents cs).text.toList = ['/'].intercalate (cs.map part) := by
  cases cs with
  | nil => rfl
  | cons c cs => cases c <;> first | exact toList_intercalate_text _ | simp at h

theorem toList_text_ofComponents_root :
    (ofComponents (.root :: cs)).text.toList = '/' :: ['/'].intercalate (cs.map part) := by
  rw [ofComponents, String.toList_append, toList_intercalate_text]
  rfl

/-- A path is relative when something stands in front of its first separator. -/
theorem isAbsolute_of_parts {first : List Char} (h : p.parts.head? = some first)
    (hne : first ≠ []) : p.isAbsolute = false := by
  obtain ⟨rest, hparts⟩ := List.head?_eq_some_iff.mp h
  have hslash : '/' ∉ first := not_mem_of_mem_splitOn (List.mem_of_head? h)
  obtain ⟨c, first, rfl⟩ := List.exists_cons_of_ne_nil hne
  have hc : c ≠ '/' := fun hc => hslash (by simp [hc])
  have hhead : p.text.toList.head? = some c := by
    rw [toList_text, hparts]
    cases rest <;> simp [List.intercalate_cons_of_ne_nil]
  rw [isAbsolute, hhead]
  simpa using hc

section Parts

variable (h : ∀ c ∈ cs, c.IsPart)
include h

theorem components_ofComponents_root :
    (ofComponents (.root :: cs)).components = .root :: cs := by
  have htext : (ofComponents (.root :: cs)).text.toList = '/' :: ['/'].intercalate (cs.map part) :=
    toList_text_ofComponents_root
  have habs : (ofComponents (.root :: cs)).isAbsolute := by simp [isAbsolute, htext]
  have hnamed : (ofComponents (.root :: cs)).named = cs := by
    rw [named_of_slash (u := []) htext, filterMap_splitOn_intercalate h]
    rfl
  rw [components_eq, hnamed, start, if_pos habs]
  rfl

theorem components_ofComponents_current :
    (ofComponents (.current :: cs)).components = .current :: cs := by
  have hparts : (ofComponents (.current :: cs)).parts = ['.'] :: cs.map part := by
    rw [parts, toList_text_ofComponents (by simp)]
    refine List.splitOn_intercalate '/' ?_ (by simp)
    intro part' hpart
    rcases List.mem_cons.mp hpart with rfl | hpart
    · decide
    · exact not_mem_of_mem_map_part h hpart
  have hfirst : (ofComponents (.current :: cs)).parts.head? = some ['.'] := by simp [hparts]
  have habs : (ofComponents (.current :: cs)).isAbsolute = false :=
    isAbsolute_of_parts hfirst (by simp)
  have hnamed : (ofComponents (.current :: cs)).named = cs := by
    rw [named, hparts, List.filterMap_cons]
    exact filterMap_map_part h
  rw [components_eq, hnamed, start, habs, hparts]
  rfl

theorem components_ofComponents_parts : (ofComponents cs).components = cs := by
  cases cs with
  | nil => rfl
  | cons c cs =>
      have hparts : (ofComponents (c :: cs)).parts = (c :: cs).map part := by
        rw [parts, toList_text_ofComponents (head?_ne_root h)]
        exact List.splitOn_intercalate '/' (fun _ => not_mem_of_mem_map_part h) (by simp)
      obtain ⟨hempty, hdot⟩ := (h c (by simp)).part_ne
      have hfirst : (ofComponents (c :: cs)).parts.head? = some c.part := by simp [hparts]
      have habs : (ofComponents (c :: cs)).isAbsolute = false := isAbsolute_of_parts hfirst hempty
      rw [components_eq, start, habs, named, hparts, filterMap_map_part h]
      simp [hdot]

end Parts

theorem start_cases (p : Path) :
    (p.start = [.root] ∧ p.isAbsolute) ∨ (p.start = [.current] ∧ p.parts.head? = some ['.']) ∨
      p.start = [] := by
  rw [start]
  split_ifs with habs hdot
  · exact .inl ⟨rfl, habs⟩
  · exact .inr (.inl ⟨rfl, hdot⟩)
  · exact .inr (.inr rfl)

theorem components_ofComponents (p : Path) :
    (ofComponents p.components).components = p.components := by
  have hnamed : ∀ c ∈ p.named, c.IsPart := fun c => isPart_of_mem_named
  rw [components_eq p]
  obtain ⟨hstart, _⟩ | ⟨hstart, _⟩ | hstart := p.start_cases <;> rw [hstart]
  · exact components_ofComponents_root hnamed
  · exact components_ofComponents_current hnamed
  · exact components_ofComponents_parts hnamed

theorem ofComponents_sublist (p : Path) :
    (ofComponents p.components).text.toList.Sublist p.text.toList := by
  rw [components_eq]
  obtain ⟨hstart, habs⟩ | ⟨hstart, hdot⟩ | hstart := p.start_cases <;> rw [hstart]
  · obtain ⟨t, ht⟩ := List.head?_eq_some_iff.mp (beq_iff_eq.mp habs)
    have hnamed : p.named = (t.splitOn '/').filterMap ofPart? := by
      rw [named_of_slash (u := []) ht]
      rfl
    have hrest : (['/'].intercalate (p.named.map part)).Sublist t := by
      rw [hnamed]
      simpa [List.intercalate_splitOn] using
        sublist_intercalate (a := '/') (map_part_filterMap_sublist (t.splitOn '/'))
    rw [List.singleton_append, toList_text_ofComponents_root, ht]
    exact hrest.cons_cons _
  · obtain ⟨rest, hparts⟩ := List.head?_eq_some_iff.mp hdot
    have hnamed : p.named = rest.filterMap ofPart? := by
      rw [named, hparts, List.filterMap_cons]
      rfl
    rw [List.singleton_append, toList_text_ofComponents (by simp), toList_text, hparts, hnamed]
    exact sublist_intercalate ((map_part_filterMap_sublist rest).cons_cons _)
  · have hroot : p.named.head? ≠ some .root := head?_ne_root fun c => isPart_of_mem_named
    rw [List.nil_append, toList_text_ofComponents hroot, toList_text]
    exact sublist_intercalate (map_part_filterMap_sublist p.parts)

/-- Only the empty path has no components. -/
theorem components_ne_nil {p : Path} (h : p.text ≠ "") : p.components ≠ [] := by
  intro hnil
  rw [components_eq, List.append_eq_nil_iff] at hnil
  obtain ⟨hstart, hnamed⟩ := hnil
  obtain ⟨first, rest, hparts⟩ := List.exists_cons_of_ne_nil (List.splitOn_ne_nil '/' p.text.toList)
  have hfirst : ofPart? first = none := by
    rw [named, parts, hparts, List.filterMap_eq_nil_iff] at hnamed
    exact hnamed first (by simp)
  have htext : p.text.toList = ['/'].intercalate (first :: rest) := by
    rw [toList_text, parts, hparts]
  rw [start] at hstart
  split_ifs at hstart with habs hdot
  have hempty : first = [] := by
    rw [ofPart?] at hfirst
    split_ifs at hfirst with h0
    exact h0.resolve_right fun hdot' => hdot (by rw [parts, hparts, hdot', List.head?_cons])
  rw [hempty] at htext
  by_cases hrest : rest = []
  · rw [hrest, List.intercalate_singleton] at htext
    exact h (String.toList_inj.mp htext)
  · rw [List.intercalate_cons_of_ne_nil hrest] at htext
    exact habs (by simp [isAbsolute, htext])

/-- A name is pushed behind the text of a path, with a separator or without one. -/
theorem toList_push (p : Path) {s : String} (hs : IsName s) :
    ∃ sep, (p.push s).text.toList = p.text.toList ++ sep ++ s.toList := by
  rw [push, join, isAbsolute_of_isName hs, if_neg Bool.false_ne_true]
  split_ifs with hempty
  · have htext : p.text = "" := by simpa using hempty
    exact ⟨[], by simp [htext]⟩
  · exact ⟨[], by simp⟩
  · exact ⟨['/'], by simp⟩

end Path

end Blueprint
