import Blueprint.Proofs.Settings.Section
import Blueprint.Settings.Load

/-!
# Choices

A source of settings chooses some of them and leaves the others alone. One source is laid over
another setting by setting, and what no source chooses is settled by the defaults. The choices of a
document are the scalars that stand at the keys of its sections, and nothing else in it counts.

Below the definitions, each setting of each section is shown to be read off the scalar at its key.
-/

namespace Blueprint

namespace Toml.Scalar

def text? : Scalar → Option String
  | .string s => some s
  | _ => none

def truth? : Scalar → Option Bool
  | .boolean b => some b
  | _ => none

end Toml.Scalar

namespace Toml

variable {title key : String} {gs ms : List (String × Value)}

/-- The scalar at a key of a section. -/
def scalarAt (title key : String) (ms : List (String × Value)) : Option Scalar :=
  ((lookup title ms).bind Value.members?).bind fun gs => (lookup key gs).bind Value.scalar?

theorem scalarAt_of_none (h : lookup title ms = none) : scalarAt title key ms = none := by
  rw [scalarAt, h]
  rfl

theorem scalarAt_of_table (h : lookup title ms = some (.table gs)) :
    scalarAt title key ms = (lookup key gs).bind Value.scalar? := by
  rw [scalarAt, h]
  rfl

/-- The scalar at a key of a section of a document. -/
def Item.scalarAt (title key : String) (root : Item) : Option Scalar :=
  ((root.member? title).bind (Item.member? key)).bind Item.scalar?

theorem scalarAt_valueMembers (root : Item) :
    scalarAt title key root.valueMembers = root.scalarAt title key := by
  rw [scalarAt, Item.lookup_valueMembers, Item.scalarAt]
  cases root.member? title with
  | none => rfl
  | some part =>
      have hpart : part.value.members?.bind (lookup key) = _ := Item.lookup_members?_value part
      rw [Option.map_some, Option.bind_some, Option.bind_some, ← Option.bind_assoc, hpart]
      cases part.member? key with
      | none => rfl
      | some item => exact Item.scalar?_value item

end Toml

open Toml

/-- What a source chooses of each setting, if anything. -/
structure Choices where
  outDir : Option Path
  failOn : Option Severity
  skipUnchanged : Option Bool
  language : Option String
  storeDir : Option Path
  verbosity : Option Verbosity
  color : Option ColorMode
  unicode : Option Bool
  deriving DecidableEq

namespace Choices

def none : Choices := ⟨.none, .none, .none, .none, .none, .none, .none, .none⟩

/-- What is chosen above, or else what is chosen below. -/
def above (top bottom : Choices) : Choices where
  outDir := top.outDir.or bottom.outDir
  failOn := top.failOn.or bottom.failOn
  skipUnchanged := top.skipUnchanged.or bottom.skipUnchanged
  language := top.language.or bottom.language
  storeDir := top.storeDir.or bottom.storeDir
  verbosity := top.verbosity.or bottom.verbosity
  color := top.color.or bottom.color
  unicode := top.unicode.or bottom.unicode

/-- The settings that choices come to, with defaults for what is left open. -/
def settle (c : Choices) : Settings where
  generate :=
    { outDir := c.outDir.getD Settings.standard.generate.outDir
      failOn := c.failOn.getD Settings.standard.generate.failOn
      skipUnchanged := c.skipUnchanged.getD Settings.standard.generate.skipUnchanged
      language := c.language.getD Settings.standard.generate.language }
  store := { dir := c.storeDir.or Settings.standard.store.dir }
  output :=
    { verbosity := c.verbosity.getD Settings.standard.output.verbosity
      color := c.color.getD Settings.standard.output.color
      unicode := c.unicode.getD Settings.standard.output.unicode }

def ofPath (x : Scalar) : Option Path := x.text?.map Path.mk

def ofName {α : Type} (ofName? : String → Option α) (x : Scalar) : Option α := x.text?.bind ofName?

/-- The choices that are made where scalars stand at keys of sections. -/
def read (found : String → String → Option Scalar) : Choices where
  outDir := (found "generate" "out_dir").bind ofPath
  failOn := (found "generate" "fail_on").bind (ofName Severity.ofName?)
  skipUnchanged := (found "generate" "skip_unchanged").bind Scalar.truth?
  language := (found "generate" "language").bind Scalar.text?
  storeDir := (found "store" "dir").bind ofPath
  verbosity := (found "output" "verbosity").bind (ofName Verbosity.ofName?)
  color := (found "output" "color").bind (ofName ColorMode.ofName?)
  unicode := (found "output" "unicode").bind Scalar.truth?

/-- The choices of a document. -/
def ofDocument (root : Item) : Choices := read fun title key => root.scalarAt title key

/-- The choices of the values of a document. -/
def ofMembers (ms : List (String × Value)) : Choices := read fun title key => scalarAt title key ms

theorem ofMembers_valueMembers (root : Item) : ofMembers root.valueMembers = ofDocument root := by
  simp only [ofMembers, ofDocument, scalarAt_valueMembers]

/-- The choices of the environment: directories that are not blank, and names that are known. -/
def ofEnvironment (env : Environment) : Choices :=
  { none with
    outDir := Settings.directory? env "ARCHLAB_OUT_DIR"
    storeDir := Settings.directory? env "ARCHLAB_STORE_DIR"
    failOn := (env "ARCHLAB_FAIL_ON").bind fun v => (Severity.parse v).toOption
    verbosity := (env "ARCHLAB_VERBOSITY").bind Verbosity.parse? }

@[simp] theorem above_none (c : Choices) : c.above none = c := by simp [above, none]

@[simp] theorem none_above (c : Choices) : none.above c = c := by simp [above, none]

end Choices

namespace Settings

/-- A section of a document, if it is there, is a table, and the keys in it hold scalars. -/
def TabularAt (root : Item) (title : String) (keys : List String) : Prop :=
  ∀ part ∈ root.member? title, part.isTable = true ∧
    ∀ key ∈ keys, ∀ item ∈ part.member? key, item.scalar?.isSome = true

instance (root : Item) (title : String) (keys : List String) :
    Decidable (TabularAt root title keys) :=
  inferInstanceAs (Decidable (∀ part ∈ root.member? title, part.isTable = true ∧
    ∀ key ∈ keys, ∀ item ∈ part.member? key, item.scalar?.isSome = true))

/-- The sections of a document are tables and their settings scalars, whatever else it holds. -/
def Tabular (root : Item) : Prop :=
  TabularAt root "generate" ["out_dir", "fail_on", "skip_unchanged", "language"] ∧
  TabularAt root "store" ["dir"] ∧
  TabularAt root "output" ["verbosity", "color", "unicode"]
  deriving Decidable

/-! ### What settings are read off -/

variable {α β : Type} (r : Reading) (x : Scalar) (span : Option Span)

theorem toOption_decodePath : (decodePath (.scalar x span)).toOption = Choices.ofPath x := by
  cases x <;> rfl

theorem toOption_decodeString : (decodeString (.scalar x span)).toOption = x.text? := by
  cases x <;> rfl

theorem toOption_decodeBool : (decodeBool (.scalar x span)).toOption = x.truth? := by
  cases x <;> rfl

theorem toOption_decodeNamed (all : List α) (name : α → String) :
    (decodeNamed r all name (.scalar x span)).toOption =
      Choices.ofName (fun s => all.find? (name · == s)) x := by
  cases x with
  | string s =>
      change (decodeNamed r all name (.scalar (.string s) span)).toOption =
        all.find? (name · == s)
      by_cases hmem : s ∈ all.map name
      · have hname : decodeName r (all.map name) (.scalar (.string s) span) = .ok s :=
          if_pos (List.contains_iff_mem.mpr hmem)
        rw [decodeNamed, hname, ok_bind]
        cases all.find? (name · == s) <;> rfl
      · have hname : ∃ c, decodeName r (all.map name) (.scalar (.string s) span) = .error c :=
          ⟨_, if_neg (mt List.contains_iff_mem.mp hmem)⟩
        obtain ⟨c, hname⟩ := hname
        have hnone : all.find? (name · == s) = none :=
          List.find?_eq_none.mpr fun a ha heq =>
            hmem (eq_of_beq heq ▸ List.mem_map_of_mem (f := name) ha)
        rw [decodeNamed, hname, error_bind, hnone]
        rfl
  | _ => cases r <;> rfl

theorem eq_of_alone_map {D : Except Complaint β} {f : β → α} {d : α × List Key}
    (h : alone (D.map f) = .ok d) : ∃ b, d.1 = f b := by
  cases D with
  | error c => cases h
  | ok b => exact ⟨b, congrArg Prod.fst (Except.ok.inj h).symm⟩

/-- A key that puts what it decodes into its setting, and that no other key interferes with. -/
theorem chooses_of_take {s : Section α} {k : String} {get : α → β} {choose : Scalar → Option β}
    {decode : Item → Except Complaint β} {put : α → β → α} (hmem : k ∈ s.keys)
    (htake : ∀ item a, s.take k item a = alone ((decode item).map (put a)))
    (hget : ∀ a b, get (put a b) = b)
    (hother : ∀ {other item a d}, other ∈ s.keys → other ≠ k → s.take other item a = .ok d →
      get d.1 = get a)
    (hdecode : ∀ x span, (decode (.scalar x span)).toOption = choose x) :
    s.Chooses k get choose := by
  refine ⟨fun item => (decode item).toOption, ⟨hmem, fun item a => ?_, hother⟩, hdecode⟩
  rw [htake]
  cases decode item with
  | error c => rfl
  | ok b => exact congrArg some (hget a b)

section Generate

variable {r} {key : String} {item : Item} {g : GenerateSettings} {d : GenerateSettings × List Key}

/-- Each key of the section sets its own setting. -/
theorem take_generateSection (hmem : key ∈ (generateSection r).keys)
    (hok : (generateSection r).take key item g = .ok d) :
    (key = "out_dir" ∧ ∃ p, d.1 = { g with outDir := p }) ∨
    (key = "fail_on" ∧ ∃ f, d.1 = { g with failOn := f }) ∨
    (key = "skip_unchanged" ∧ ∃ b, d.1 = { g with skipUnchanged := b }) ∨
    (key = "language" ∧ ∃ l, d.1 = { g with language := l }) := by
  simp only [generateSection, List.mem_cons, List.not_mem_nil, or_false] at hmem
  rcases hmem with rfl | rfl | rfl | rfl
  · exact .inl ⟨rfl, eq_of_alone_map hok⟩
  · exact .inr (.inl ⟨rfl, eq_of_alone_map hok⟩)
  · exact .inr (.inr (.inl ⟨rfl, eq_of_alone_map hok⟩))
  · exact .inr (.inr (.inr ⟨rfl, eq_of_alone_map hok⟩))

theorem chooses_outDir :
    (generateSection r).Chooses "out_dir" GenerateSettings.outDir Choices.ofPath :=
  chooses_of_take (by simp [generateSection]) (fun _ _ => rfl) (fun _ _ => rfl)
    (fun hmem hne hok => by grind [take_generateSection hmem hok]) toOption_decodePath

theorem chooses_failOn : (generateSection r).Chooses "fail_on" GenerateSettings.failOn
    (Choices.ofName Severity.ofName?) :=
  chooses_of_take (by simp [generateSection]) (fun _ _ => rfl) (fun _ _ => rfl)
    (fun hmem hne hok => by grind [take_generateSection hmem hok])
    fun x span => toOption_decodeNamed r x span _ _

theorem chooses_skipUnchanged : (generateSection r).Chooses "skip_unchanged"
    GenerateSettings.skipUnchanged Scalar.truth? :=
  chooses_of_take (by simp [generateSection]) (fun _ _ => rfl) (fun _ _ => rfl)
    (fun hmem hne hok => by grind [take_generateSection hmem hok]) toOption_decodeBool

theorem chooses_language :
    (generateSection r).Chooses "language" GenerateSettings.language Scalar.text? :=
  chooses_of_take (by simp [generateSection]) (fun _ _ => rfl) (fun _ _ => rfl)
    (fun hmem hne hok => by grind [take_generateSection hmem hok]) toOption_decodeString

end Generate

theorem chooses_dir :
    storeSection.Chooses "dir" StoreSettings.dir (Option.map some ∘ Choices.ofPath) := by
  have htake : ∀ item t, storeSection.take "dir" item t =
      alone (((decodePath item).map some).map fun dir => ⟨dir⟩) := fun item _ => by
    cases h : decodePath item <;> simp only [storeSection, h] <;> rfl
  refine chooses_of_take (by simp [storeSection]) htake (fun _ _ => rfl)
    (fun hmem hne _ => absurd (List.mem_singleton.mp hmem) hne) fun x span => ?_
  rw [Function.comp_apply, ← toOption_decodePath x span]
  cases decodePath (.scalar x span) <;> rfl

section Output

variable {r} {key : String} {item : Item} {o : OutputSettings} {d : OutputSettings × List Key}

theorem take_outputSection (hmem : key ∈ (outputSection r).keys)
    (hok : (outputSection r).take key item o = .ok d) :
    (key = "verbosity" ∧ ∃ v, d.1 = { o with verbosity := v }) ∨
    (key = "color" ∧ ∃ c, d.1 = { o with color := c }) ∨
    (key = "unicode" ∧ ∃ b, d.1 = { o with unicode := b }) := by
  simp only [outputSection, List.mem_cons, List.not_mem_nil, or_false] at hmem
  rcases hmem with rfl | rfl | rfl
  · exact .inl ⟨rfl, eq_of_alone_map hok⟩
  · exact .inr (.inl ⟨rfl, eq_of_alone_map hok⟩)
  · exact .inr (.inr ⟨rfl, eq_of_alone_map hok⟩)

theorem chooses_verbosity : (outputSection r).Chooses "verbosity" OutputSettings.verbosity
    (Choices.ofName Verbosity.ofName?) :=
  chooses_of_take (by simp [outputSection]) (fun _ _ => rfl) (fun _ _ => rfl)
    (fun hmem hne hok => by grind [take_outputSection hmem hok])
    fun x span => toOption_decodeNamed r x span _ _

theorem chooses_color : (outputSection r).Chooses "color" OutputSettings.color
    (Choices.ofName ColorMode.ofName?) :=
  chooses_of_take (by simp [outputSection]) (fun _ _ => rfl) (fun _ _ => rfl)
    (fun hmem hne hok => by grind [take_outputSection hmem hok])
    fun x span => toOption_decodeNamed r x span _ _

theorem chooses_unicode :
    (outputSection r).Chooses "unicode" OutputSettings.unicode Scalar.truth? :=
  chooses_of_take (by simp [outputSection]) (fun _ _ => rfl) (fun _ _ => rfl)
    (fun hmem hne hok => by grind [take_outputSection hmem hok]) toOption_decodeBool

end Output

end Settings

end Blueprint
