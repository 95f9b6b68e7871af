import Blueprint.Proofs.Settings.Section
import Blueprint.Proofs.Toml.Written
import Mathlib.Data.List.DropRight

/-!
# Warnings about unknown keys

A file that is accepted is warned about once for each key that no setting has. A warning tells the
part of the key's name after its last dot, and the first line that this part is found on. So it
tells the key and the line that it is written on exactly when the name has no dot and is found on
that line, but on none before it.
-/

namespace Blueprint

open Toml

namespace UnknownKey

variable {content part name : String}

theorem lineOf_eq_some_iff {i : Nat} :
    lineOf content part = some (i + 1) ↔ Text.FirstHolds content part i := by
  rw [lineOf, Option.map_eq_some_iff]
  simp only [Nat.add_right_cancel_iff, exists_eq_right, List.findIdx?_eq_some_iff_getElem]
  constructor
  · rintro ⟨hi, hholds, hfirst⟩
    refine ⟨(Text.lineHolds_iff hi).mpr hholds, fun j hj hline => hfirst j hj ?_⟩
    exact (Text.lineHolds_iff (hj.trans hi)).mp hline
  · rintro ⟨hholds, hfirst⟩
    have hi : i < (Text.lines content).length := by
      obtain ⟨line, hline, -⟩ := hholds
      exact (List.getElem?_eq_some_iff.mp hline).1
    refine ⟨hi, (Text.lineHolds_iff hi).mp hholds, fun j hj hline => hfirst j hj ?_⟩
    exact (Text.lineHolds_iff (hj.trans hi)).mpr hline

theorem toList_lastPart (name : String) :
    (lastPart name).toList = name.toList.rtakeWhile (· != '.') := String.toList_ofList

theorem lastPart_eq_self_iff : lastPart name = name ↔ '.' ∉ name.toList := by
  rw [← String.toList_inj, toList_lastPart, List.rtakeWhile_eq_self_iff]
  constructor
  · intro h hdot
    exact absurd (h '.' hdot) (by decide)
  · intro h c hc
    exact bne_iff_ne.mpr fun heq => h (heq ▸ hc)

theorem lastPart_suffix (name : String) : (lastPart name).toList <:+ name.toList := by
  rw [toList_lastPart]
  exact List.rtakeWhile_suffix _ _

/-- A warning tells the name of a key and the line of a place. -/
def Tells (w : UnknownKey) (key : Key) {text : List Char} (p : Place text) : Prop :=
  w.key = key.name ∧ w.line = some p.line

theorem ofKey_tells_iff (file : Path) (key : Key) (p : Place content.toList) :
    (ofKey file content key).Tells key p ↔
      '.' ∉ key.name.toList ∧ Text.FirstHolds content key.name p.row := by
  have hline : (ofKey file content key).line = some p.line ↔
      Text.FirstHolds content (lastPart key.name) p.row := lineOf_eq_some_iff
  rw [Tells, hline, ofKey, lastPart_eq_self_iff]
  exact and_congr_right fun hdot => by rw [lastPart_eq_self_iff.mpr hdot]

end UnknownKey

namespace Toml

/-- What is spelled out at the place of a key is on the line of that place. -/
theorem Key.WrittenAt.lineHolds {content part : String} {key : Key} {p : Place content.toList}
    (h : key.WrittenAt p) (hpart : part.toList <:+: p.spelling) :
    Text.LineHolds content part p.row :=
  h.spells.onLine.lineHolds h.spells.ne_nil p.text_eq hpart

/-- The members of a table. -/
def Item.entries : Item → Members
  | .table _ ms _ => ms
  | _ => []

end Toml

namespace Settings

/-! ### Keys that no setting has -/

/-- The keys of an item in the place of a section, less those that the section has. A date is looked
at as a table with a key of its own. -/
def strayKeys (keys : List String) : Item → List Key
  | .table _ ms _ => (ms.map Prod.fst).filter (·.name ∉ keys)
  | .scalar (.datetime _) _ => [dateKey]
  | _ => []

/-- The keys of the settings of a section. -/
def settingKeys : String → List String
  | "generate" => (generateSection .file).keys
  | "store" => storeSection.keys
  | _ => (outputSection .file).keys

/-- The keys of a document that no setting has, in its order: those beside the sections, and those
in a section that are not its own. -/
def unknownKeys (root : Item) : List Key :=
  root.entries.flatMap fun (key, item) =>
    if key.name ∈ (wholeSection .file).keys then strayKeys (settingKeys key.name) item else [key]

section Decoding

variable {α : Type} {s : Section α} {ms : Members} {item : Item} {a : α} {d : α × List Key}

theorem snd_of_takeMembers (found : String → Item → List Key)
    (hfound : ∀ {key item a d}, key ∈ s.keys → s.take key item a = .ok d → d.2 = found key item)
    (h : takeMembers s ms a = .ok d) :
    d.2 = ms.flatMap fun m => if m.1.name ∈ s.keys then found m.1.name m.2 else [m.1] := by
  induction ms generalizing a d with
  | nil =>
      cases h
      rfl
  | cons m ms ih =>
      obtain ⟨key, item⟩ := m
      rw [List.flatMap_cons]
      by_cases hkey : key.name ∈ s.keys
      · obtain ⟨here, rest, hhere, hrest, rfl⟩ := (takeMembers_cons_of_mem hkey).mp h
        rw [if_pos hkey, ← hfound hkey hhere, ← ih hrest]
      · obtain ⟨rest, hrest, rfl⟩ := (takeMembers_cons_of_notMem hkey).mp h
        rw [if_neg hkey, ← ih hrest]
        rfl

/-- A section whose settings are not sections themselves. -/
def Section.IsLeaf (s : Section α) : Prop :=
  ∀ key item a d, s.take key item a = .ok d → d.2 = []

theorem snd_of_alone {D : Except Complaint α} (h : alone D = .ok d) : d.2 = [] := by
  cases D with
  | error c => cases h
  | ok a => exact congrArg Prod.snd (Except.ok.inj h).symm

theorem isLeaf_generateSection (r : Reading) : (generateSection r).IsLeaf :=
  fun _ _ _ _ => snd_of_alone

theorem isLeaf_storeSection : storeSection.IsLeaf := fun _ _ _ _ => snd_of_alone

theorem isLeaf_outputSection (r : Reading) : (outputSection r).IsLeaf :=
  fun _ _ _ _ => snd_of_alone

theorem Section.IsLeaf.snd_of_takeItems (hs : s.IsLeaf) {items : List (String × Item)}
    (h : takeItems s items a = .ok d) : d.2 = [] := by
  induction items generalizing a d with
  | nil =>
      cases h
      rfl
  | cons m items ih =>
      obtain ⟨here, hhere, h⟩ := bind_eq_ok_iff.mp h
      obtain ⟨rest, hrest, h⟩ := bind_eq_ok_iff.mp h
      cases h
      rw [hs _ _ _ _ hhere, ih hrest, List.append_nil]

theorem Section.IsLeaf.snd_of_ofItems (hs : s.IsLeaf) {items : List Item} {span : Option Span}
    (h : ofItems .file s items span = .ok d) : d.2 = [] := by
  obtain ⟨e, he, h⟩ := bind_eq_ok_iff.mp h
  cases h
  exact hs.snd_of_takeItems he

theorem Section.IsLeaf.snd_of_takeMembers (hs : s.IsLeaf) (h : takeMembers s ms a = .ok d) :
    d.2 = (ms.map Prod.fst).filter (·.name ∉ s.keys) := by
  rw [Settings.snd_of_takeMembers (fun _ _ => []) (fun _ htake => hs _ _ _ _ htake) h]
  clear h
  induction ms with
  | nil => rfl
  | cons m ms ih =>
      rw [List.flatMap_cons, ih, List.map_cons, List.filter_cons]
      by_cases hkey : m.1.name ∈ s.keys <;> simp [hkey]

theorem Section.IsLeaf.snd_of_decodeSection (hs : s.IsLeaf)
    (h : decodeSection .file s item = .ok d) : d.2 = strayKeys s.keys item := by
  unfold decodeSection at h
  split at h
  next => exact hs.snd_of_takeMembers h
  next => exact hs.snd_of_ofItems h
  next => exact hs.snd_of_ofItems h
  next =>
    cases h
    rfl
  next => cases h

theorem Section.IsLeaf.snd_of_take (hs : s.IsLeaf) {title : String} {c : Settings}
    {f : α → Settings} {e : Settings × List Key}
    (htake : (wholeSection .file).take title item c =
      (decodeSection .file s item).map fun (a, ks) => (f a, ks))
    (h : (wholeSection .file).take title item c = .ok e) : e.2 = strayKeys s.keys item := by
  rw [htake] at h
  cases hdecode : decodeSection .file s item with
  | error fault =>
      rw [hdecode] at h
      cases h
  | ok d =>
      rw [hdecode] at h
      cases h
      exact hs.snd_of_decodeSection hdecode

/-- What a whole file does not know at the title of a section is what the section does not. -/
theorem snd_of_take_wholeSection {key : String} {c : Settings} {e : Settings × List Key}
    (hkey : key ∈ (wholeSection .file).keys) (h : (wholeSection .file).take key item c = .ok e) :
    e.2 = strayKeys (settingKeys key) item := by
  simp only [wholeSection, List.mem_cons, List.not_mem_nil, or_false] at hkey
  rcases hkey with rfl | rfl | rfl
  · exact (isLeaf_generateSection .file).snd_of_take (f := fun g => { c with generate := g }) rfl h
  · exact isLeaf_storeSection.snd_of_take (f := fun t => { c with store := t }) rfl h
  · exact (isLeaf_outputSection .file).snd_of_take (f := fun o => { c with output := o }) rfl h

theorem snd_of_decode {kind : TableKind} {span : Option Span} {e : Settings × List Key}
    (h : decode .file (.table kind ms span) = .ok e) :
    e.2 = unknownKeys (.table kind ms span) :=
  snd_of_takeMembers (fun key item => strayKeys (settingKeys key) item)
    (fun hkey htake => snd_of_take_wholeSection hkey htake) h

end Decoding

/-! ### Warnings -/

/-- A document has a date in the place of a section. -/
def HasDate (root : Item) : Prop :=
  ∃ m ∈ root.entries, m.1.name ∈ (wholeSection .file).keys ∧
    ∃ text span, m.2 = .scalar (.datetime text) span

theorem of_mem_strayKeys {P : Key → Prop} {keys : List String} {item : Item} {key : Key}
    (hitem : item.AllKeys P) (hkey : key ∈ strayKeys keys item) :
    (key = dateKey ∧ ∃ text span, item = .scalar (.datetime text) span) ∨ P key := by
  unfold strayKeys at hkey
  split at hkey
  next =>
    obtain ⟨m, hm, rfl⟩ := List.mem_map.mp (List.mem_of_mem_filter hkey)
    exact .inr (Item.allKeys_table_iff.mp hitem m hm).1
  next => exact .inl ⟨List.mem_singleton.mp hkey, _, _, rfl⟩
  next => cases hkey

/-- A key that no setting has is one of the document, or that of a date. -/
theorem of_mem_unknownKeys {P : Key → Prop} {root : Item} {key : Key} (hroot : root.AllKeys P)
    (hkey : key ∈ unknownKeys root) : (key = dateKey ∧ HasDate root) ∨ P key := by
  obtain ⟨⟨title, item⟩, hmem, hkey⟩ := List.mem_flatMap.mp hkey
  have hentry : P title ∧ item.AllKeys P := by
    cases root with
    | table kind ms span => exact Item.allKeys_table_iff.mp hroot _ hmem
    | _ => cases hmem
  dsimp only at hkey
  split_ifs at hkey with htitle
  · rcases of_mem_strayKeys hentry.2 hkey with ⟨rfl, hdate⟩ | hP
    · exact .inl ⟨rfl, _, hmem, htitle, hdate⟩
    · exact .inr hP
  · exact .inr (List.mem_singleton.mp hkey ▸ hentry.1)

variable {file : Path} {content : String} {layer : Layer}

/-- A file that is accepted is warned about once for each key that no setting has. -/
theorem unknown_of_readText (h : readText file content = .ok layer) :
    ∃ root, parse? content = some root ∧ root.AllKeys (Key.Written content.toList) ∧
      layer.unknown = (unknownKeys root).map (UnknownKey.ofKey file content) := by
  obtain ⟨root, e, hparse, hdecode, -, hunknown⟩ := readText_eq_ok h
  have hroot := tableOf_written_of_parse? hparse
  have hkeys := hroot.allKeys
  obtain ⟨kind, ms, span, rfl, -⟩ := hroot
  exact ⟨_, hparse, hkeys, by rw [hunknown, snd_of_decode hdecode]⟩

/-- A file that is accepted is warned about once for each key that no setting has, and for each
section that is a date. A key is written at a place, which the warning tells with its name exactly
when the name has no dot and is found on that line first. A name that is spelled out at its place is
on that line, so no later one is told. -/
theorem readText_unknown_tells_iff (h : readText file content = .ok layer) :
    ∃ root, parse? content = some root ∧
      layer.unknown = (unknownKeys root).map (UnknownKey.ofKey file content) ∧
      ∀ key ∈ unknownKeys root, (key = dateKey ∧ HasDate root) ∨
        ∃ p : Place content.toList, key.WrittenAt p ∧
          ((UnknownKey.ofKey file content key).Tells key p ↔
            '.' ∉ key.name.toList ∧ Text.FirstHolds content key.name p.row) ∧
          (key.name.toList <:+: p.spelling → Text.LineHolds content key.name p.row ∧
            ∃ n ≤ p.line, (UnknownKey.ofKey file content key).line = some n) := by
  obtain ⟨root, hparse, hkeys, hunknown⟩ := unknown_of_readText h
  refine ⟨root, hparse, hunknown, fun key hkey => ?_⟩
  refine (of_mem_unknownKeys hkeys hkey).imp_right fun ⟨p, hp⟩ => ⟨p, hp, ?_, fun hspelled => ?_⟩
  · exact UnknownKey.ofKey_tells_iff file key p
  · refine ⟨hp.lineHolds hspelled, ?_⟩
    have hlast := (UnknownKey.lastPart_suffix key.name).isInfix.trans hspelled
    obtain ⟨i, hi, hfirst⟩ := (hp.lineHolds hlast).exists_firstHolds
    exact ⟨i + 1, Nat.succ_le_succ hi, UnknownKey.lineOf_eq_some_iff.mpr hfirst⟩

/-- A file with a misspelled key. -/
def misspelled : String := "[generate]\nout_dri = \"x\"\n"

theorem readText_unknown_tells_misspelled :
    ∃ layer key, ∃ p : Place misspelled.toList,
      readText ⟨"archlab.toml"⟩ misspelled = .ok layer ∧
      layer.unknown = [UnknownKey.ofKey ⟨"archlab.toml"⟩ misspelled key] ∧ key.WrittenAt p ∧
      p.line = 2 ∧ (UnknownKey.ofKey ⟨"archlab.toml"⟩ misspelled key).Tells key p := by
  have hkeys : (parse? misspelled).map unknownKeys = some [⟨"out_dri", some ⟨11, 18⟩⟩] := by
    decide +kernel
  obtain ⟨layer, hlayer⟩ := exists_eq_ok_of_isSome
    (show (readText ⟨"archlab.toml"⟩ misspelled).toOption.isSome = true by decide +kernel)
  obtain ⟨root, hparse, hunknown, htold⟩ := readText_unknown_tells_iff hlayer
  rw [hparse] at hkeys
  rw [Option.some.inj hkeys] at hunknown htold
  rcases htold _ List.mem_cons_self with ⟨hdate, -⟩ | ⟨p, hp, htells, -⟩
  · exact absurd hdate (by decide)
  have hline : p.line = 2 := (hp.line_eq rfl).trans (by decide)
  refine ⟨layer, _, p, hlayer, hunknown, hp, hline, htells.mpr ⟨by decide, ?_⟩⟩
  rw [show p.row = 1 from Nat.succ.inj hline]
  exact UnknownKey.lineOf_eq_some_iff.mp (by decide)

/-- A file with a misspelled key that a comment before it has, too. -/
def noted : String := "# out_dri is a typo\n[generate]\nout_dri = \"x\"\n"

/-- The line of the comment is told, and no key that is not known is written there. -/
theorem exists_unknown_not_tells : ∃ layer root,
    readText ⟨"archlab.toml"⟩ noted = .ok layer ∧ parse? noted = some root ∧
      ∃ w ∈ layer.unknown, ∀ key ∈ unknownKeys root, ∀ p : Place noted.toList,
        key.WrittenAt p → ¬ w.Tells key p := by
  have hkeys : (parse? noted).map unknownKeys = some [⟨"out_dri", some ⟨31, 38⟩⟩] := by
    decide +kernel
  obtain ⟨layer, hlayer⟩ := exists_eq_ok_of_isSome
    (show (readText ⟨"archlab.toml"⟩ noted).toOption.isSome = true by decide +kernel)
  obtain ⟨root, hparse, -, hunknown⟩ := unknown_of_readText hlayer
  rw [hparse] at hkeys
  rw [Option.some.inj hkeys, List.map_singleton] at hunknown
  refine ⟨layer, root, hlayer, hparse, _, hunknown ▸ List.mem_cons_self, ?_⟩
  rintro key hkey p hp ⟨-, htold⟩
  rw [Option.some.inj hkeys, List.mem_singleton] at hkey
  subst hkey
  have hline : p.line = 3 := (hp.line_eq rfl).trans (by decide)
  rw [hline] at htold
  exact absurd htold (by decide)

end Settings

end Blueprint
