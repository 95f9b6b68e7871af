import Blueprint.Proofs.Except
import Blueprint.Proofs.Text.Lines
import Blueprint.Settings.Override
import Mathlib.Data.List.DropRight

/-!
# Overrides

The environment changes four settings at most. Each becomes what its variable reads as, and stays as
it was when the variable is not set or reads as nothing. There is one warning for each of the two
variables that name one of several things when it is set and names none of them, and the same
environment once more changes nothing.
-/

namespace Blueprint

/-! ### What values read as -/

theorem Text.blank_iff_trim_eq_empty {s : String} : blank s = true ↔ trim s = "" := by
  have htrim : trim s = "" ↔ (s.toList.dropWhile isBlank).rdropWhile isBlank = [] := by
    rw [trim, String.ofList_eq_empty_iff]
    rfl
  rw [htrim, List.rdropWhile_eq_nil_iff, blank, List.all_eq_true]
  constructor
  · intro h c hc
    exact h c ((List.dropWhile_sublist isBlank).subset hc)
  · intro h
    -- The first character that is left at the front would not be blank.
    have hnil : s.toList.dropWhile isBlank = [] := by
      by_contra hne
      have hblank := h _ (List.head_mem hne)
      rw [List.head_dropWhile_not isBlank] at hblank
      exact Bool.false_ne_true hblank
    exact List.dropWhile_eq_nil_iff.mp hnil

namespace Severity

/-- The words for a severity. -/
def words : Severity → List String
  | .warning => ["warning", "warn"]
  | .error => ["error"]

/-- A value is a word for a severity, up to blanks around it and letter case. -/
def ReadAs (value : String) (s : Severity) : Prop :=
  Text.lowercase (Text.trim value) ∈ s.words

theorem toOption_parse_eq_some_iff {value : String} {s : Severity} :
    (parse value).toOption = some s ↔ ReadAs value s := by
  rw [toOption_eq_some_iff, parse, ReadAs]
  generalize Text.lowercase (Text.trim value) = word
  split <;> cases s <;> simp_all [words]

theorem ReadAs.unique {value : String} {s t : Severity} (h : ReadAs value s)
    (h' : ReadAs value t) : s = t :=
  Option.some.inj
    ((toOption_parse_eq_some_iff.mpr h).symm.trans (toOption_parse_eq_some_iff.mpr h'))

end Severity

namespace Verbosity

/-- A value is the name of a verbosity, up to blanks around it and letter case. -/
def ReadAs (value : String) (v : Verbosity) : Prop := Text.lowercase (Text.trim value) = v.name

theorem parse?_eq_some_iff {value : String} {v : Verbosity} :
    parse? value = some v ↔ ReadAs value v := by
  rw [parse?, ofName?, ReadAs]
  generalize Text.lowercase (Text.trim value) = word
  constructor
  · intro h
    have hname : (v.name == word) = true := List.find?_some (p := fun v => name v == word) h
    exact (eq_of_beq hname).symm
  · rintro rfl
    cases v <;> rfl

theorem ReadAs.unique {value : String} {v w : Verbosity} (h : ReadAs value v)
    (h' : ReadAs value w) : v = w :=
  Option.some.inj ((parse?_eq_some_iff.mpr h).symm.trans (parse?_eq_some_iff.mpr h'))

end Verbosity

/-- A value that is not blank names a directory. -/
def Path.ReadAs (value : String) (p : Path) : Prop := Text.trim value ≠ "" ∧ p = ⟨value⟩

theorem Path.ReadAs.unique {value : String} {p q : Path} (h : ReadAs value p)
    (h' : ReadAs value q) : p = q :=
  h.2.trans h'.2.symm

/-- What a variable makes of a setting: what its value reads as, or else what was set before. -/
inductive Overrides {α : Type} (readAs : String → α → Prop) (value? : Option String) (old : α) :
    α → Prop
  | taken {value : String} {a : α} (set : value? = some value) (read : readAs value a) :
    Overrides readAs value? old a
  | kept (unread : ∀ value, value? = some value → ∀ a, ¬ readAs value a) :
    Overrides readAs value? old old

section Overrides

variable {α : Type} {readAs : String → α → Prop} {value? : Option String} {old a b : α}

theorem Overrides.again (h : Overrides readAs value? old a) : Overrides readAs value? a a := by
  cases h with
  | taken set read => exact .taken set read
  | kept unread => exact .kept unread

theorem Overrides.unique (h : Overrides readAs value? old a) (h' : Overrides readAs value? old b)
    (hread : ∀ {value a b}, readAs value a → readAs value b → a = b) : a = b := by
  cases h with
  | taken set read =>
      cases h' with
      | taken set' read' =>
          obtain rfl := Option.some.inj (set.symm.trans set')
          exact hread read read'
      | kept unread => exact absurd read (unread _ set _)
  | kept unread =>
      cases h' with
      | taken set read => exact absurd read (unread _ set _)
      | kept _ => rfl

end Overrides

namespace Settings

/-- What the environment makes of settings: four of them are overridden, nothing else changes. -/
structure OverriddenBy (env : Environment) (c c' : Settings) : Prop where
  outDir : Overrides Path.ReadAs (env "ARCHLAB_OUT_DIR") c.generate.outDir c'.generate.outDir
  storeDir : Overrides (fun value dir => ∃ p, dir = some p ∧ Path.ReadAs value p)
    (env "ARCHLAB_STORE_DIR") c.store.dir c'.store.dir
  failOn : Overrides Severity.ReadAs (env "ARCHLAB_FAIL_ON") c.generate.failOn c'.generate.failOn
  verbosity : Overrides Verbosity.ReadAs (env "ARCHLAB_VERBOSITY") c.output.verbosity
    c'.output.verbosity
  frame : c' =
    ⟨⟨c'.generate.outDir, c'.generate.failOn, c.generate.skipUnchanged, c.generate.language⟩,
      ⟨c'.store.dir⟩, ⟨c'.output.verbosity, c.output.color, c.output.unicode⟩⟩

/-- A variable is set to a value that names none of the things that it may name. -/
def Misnames (env : Environment) (name value : String) : Prop :=
  env name = some value ∧
    (name = "ARCHLAB_FAIL_ON" ∧ (∀ s, ¬ Severity.ReadAs value s) ∨
      name = "ARCHLAB_VERBOSITY" ∧ ∀ v, ¬ Verbosity.ReadAs value v)

variable {env : Environment} {c c' c'' : Settings}

theorem OverriddenBy.again (h : OverriddenBy env c c') : OverriddenBy env c' c' :=
  ⟨h.outDir.again, h.storeDir.again, h.failOn.again, h.verbosity.again, rfl⟩

theorem OverriddenBy.unique (h : OverriddenBy env c c') (h' : OverriddenBy env c c'') :
    c' = c'' := by
  have houtDir := h.outDir.unique h'.outDir Path.ReadAs.unique
  have hfailOn := h.failOn.unique h'.failOn Severity.ReadAs.unique
  have hverbosity := h.verbosity.unique h'.verbosity Verbosity.ReadAs.unique
  have hstoreDir := h.storeDir.unique h'.storeDir fun ⟨_, ha, hp⟩ ⟨_, hb, hq⟩ => by
    rw [ha, hb, hp.unique hq]
  rw [h.frame, h'.frame, houtDir, hstoreDir, hfailOn, hverbosity]

/-! ### Variables -/

/-- A variable names a directory, or what it is set to names none. -/
theorem directory?_cases (env : Environment) (name : String) :
    (∃ value p, env name = some value ∧ Path.ReadAs value p ∧ directory? env name = some p) ∨
    (∀ value, env name = some value → ∀ p, ¬ Path.ReadAs value p) ∧
      directory? env name = none := by
  cases hset : env name with
  | none => exact .inr ⟨nofun, by simp [directory?, hset]⟩
  | some value =>
      by_cases hblank : Text.blank value
      · refine .inr ⟨?_, by simp [directory?, hset, hblank]⟩
        rintro _ ⟨⟩ p ⟨htrim, -⟩
        exact htrim (Text.blank_iff_trim_eq_empty.mp hblank)
      · refine .inl ⟨value, ⟨value⟩, rfl, ⟨?_, rfl⟩, by simp [directory?, hset, hblank]⟩
        exact fun htrim => hblank (Text.blank_iff_trim_eq_empty.mpr htrim)

theorem overrides_directory (env : Environment) (name : String) (old : Path) :
    Overrides Path.ReadAs (env name) old ((directory? env name).getD old) := by
  rcases directory?_cases env name with
    ⟨value, p, hset, hread, hdir⟩ | ⟨hunread, hdir⟩ <;> rw [hdir]
  · exact .taken hset hread
  · exact .kept hunread

theorem overrides_directory_or (env : Environment) (name : String) (old : Option Path) :
    Overrides (fun value dir => ∃ p, dir = some p ∧ Path.ReadAs value p) (env name) old
      ((directory? env name).or old) := by
  rcases directory?_cases env name with
    ⟨value, p, hset, hread, hdir⟩ | ⟨hunread, hdir⟩ <;> rw [hdir]
  · exact .taken hset ⟨p, rfl, hread⟩
  · exact .kept fun value hset dir ⟨p, _, hread⟩ => hunread value hset p hread

section Choice

variable {α : Type} {readAs : String → α → Prop} {parse? : String → Option α} {name : String}
  {valid : List String} {w : OverrideWarning}

/-- A choice takes what the value reads as, or keeps what was set and warns of a value that is
there. -/
theorem choice_cases (hparse : ∀ {value a}, parse? value = some a ↔ readAs value a)
    (env : Environment) (name : String) (valid : List String) (fallback : α) :
    (∃ value a, env name = some value ∧ readAs value a ∧
      choice env name valid parse? fallback = (a, [])) ∨
    (∀ value, env name = some value → ∀ a, ¬ readAs value a) ∧
      choice env name valid parse? fallback =
        (fallback, (env name).toList.map fun value => ⟨name, value, valid⟩) := by
  cases hset : env name with
  | none => exact .inr ⟨nofun, by rw [choice, hset]; rfl⟩
  | some value =>
      cases hvalue : parse? value with
      | some a =>
          refine .inl ⟨value, a, rfl, hparse.mp hvalue, ?_⟩
          rw [choice, hset]
          simp only [hvalue]
      | none =>
          refine .inr ⟨?_, by rw [choice, hset]; simp only [hvalue]; rfl⟩
          rintro _ ⟨⟩ a ha
          exact Option.some_ne_none a ((hparse.mpr ha).symm.trans hvalue)

theorem overrides_choice (hparse : ∀ {value a}, parse? value = some a ↔ readAs value a)
    (fallback : α) :
    Overrides readAs (env name) fallback (choice env name valid parse? fallback).1 := by
  rcases choice_cases hparse env name valid fallback with
    ⟨value, a, hset, hread, hchoice⟩ | ⟨hunread, hchoice⟩ <;> rw [hchoice]
  · exact .taken hset hread
  · exact .kept hunread

theorem mem_warnings_choice_iff (hparse : ∀ {value a}, parse? value = some a ↔ readAs value a)
    (fallback : α) : w ∈ (choice env name valid parse? fallback).2 ↔
      w = ⟨name, w.value, valid⟩ ∧ env name = some w.value ∧ ∀ a, ¬ readAs w.value a := by
  rcases choice_cases hparse env name valid fallback with
    ⟨value, a, hset, hread, hchoice⟩ | ⟨hunread, hchoice⟩ <;> rw [hchoice]
  · refine ⟨nofun, fun ⟨_, hvalue, hnone⟩ => ?_⟩
    obtain rfl := Option.some.inj (hset.symm.trans hvalue)
    exact absurd hread (hnone a)
  · rw [List.mem_map]
    constructor
    · rintro ⟨value, hvalue, rfl⟩
      have hset := Option.mem_toList.mp hvalue
      exact ⟨rfl, hset, hunread value hset⟩
    · rintro ⟨hw, hset, -⟩
      exact ⟨w.value, Option.mem_toList.mpr hset, hw.symm⟩

theorem warnings_choice_sublist (fallback : α) :
    ((choice env name valid parse? fallback).2.map OverrideWarning.name).Sublist [name] := by
  rw [choice]
  split
  · exact List.nil_sublist _
  · split
    · exact List.nil_sublist _
    · exact .refl _

end Choice

/-! ### The whole environment -/

theorem override_fst (env : Environment) (c : Settings) : (override env c).1 =
    { generate :=
        { c.generate with
          outDir := (directory? env outDirVariable).getD c.generate.outDir
          failOn := (choice env failOnVariable ["error", "warning"]
            (fun v => (Severity.parse v).toOption) c.generate.failOn).1 }
      store := ⟨(directory? env storeDirVariable).or c.store.dir⟩
      output :=
        { c.output with
          verbosity := (choice env verbosityVariable (Verbosity.all.map Verbosity.name)
            Verbosity.parse? c.output.verbosity).1 } } := rfl

theorem override_snd (env : Environment) (c : Settings) : (override env c).2 =
    (choice env failOnVariable ["error", "warning"] (fun v => (Severity.parse v).toOption)
      c.generate.failOn).2 ++
    (choice env verbosityVariable (Verbosity.all.map Verbosity.name) Verbosity.parse?
      c.output.verbosity).2 := rfl

theorem overriddenBy_override (env : Environment) (c : Settings) :
    OverriddenBy env c (override env c).1 := by
  rw [override_fst]
  exact ⟨overrides_directory env outDirVariable _, overrides_directory_or env storeDirVariable _,
    overrides_choice Severity.toOption_parse_eq_some_iff _,
    overrides_choice Verbosity.parse?_eq_some_iff _, rfl⟩

theorem exists_warning_iff_misnames (env : Environment) (c : Settings) (name value : String) :
    (∃ w ∈ (override env c).2, w.name = name ∧ w.value = value) ↔ Misnames env name value := by
  rw [override_snd]
  simp only [List.mem_append, mem_warnings_choice_iff Severity.toOption_parse_eq_some_iff,
    mem_warnings_choice_iff Verbosity.parse?_eq_some_iff]
  constructor
  · rintro ⟨w, ⟨hw, hset, hnone⟩ | ⟨hw, hset, hnone⟩, rfl, rfl⟩
    · have hname : w.name = "ARCHLAB_FAIL_ON" := congrArg OverrideWarning.name hw
      exact ⟨hname ▸ hset, .inl ⟨hname, hnone⟩⟩
    · have hname : w.name = "ARCHLAB_VERBOSITY" := congrArg OverrideWarning.name hw
      exact ⟨hname ▸ hset, .inr ⟨hname, hnone⟩⟩
  · rintro ⟨hset, ⟨rfl, hnone⟩ | ⟨rfl, hnone⟩⟩
    · exact ⟨⟨_, value, _⟩, .inl ⟨rfl, hset, hnone⟩, rfl, rfl⟩
    · exact ⟨⟨_, value, _⟩, .inr ⟨rfl, hset, hnone⟩, rfl, rfl⟩

theorem nodup_warnings (env : Environment) (c : Settings) :
    ((override env c).2.map OverrideWarning.name).Nodup := by
  rw [override_snd, List.map_append]
  refine List.Nodup.sublist ((warnings_choice_sublist _).append (warnings_choice_sublist _)) ?_
  decide

/-- A warning names its variable and the value. -/
theorem exists_text_eq (w : OverrideWarning) : ∃ rest,
    w.text = "Warning: Invalid " ++ w.name ++ " value '" ++ w.value ++ "'" ++ rest := by
  simp only [OverrideWarning.text, Text.unlines_cons, String.append_assoc]
  exact ⟨_, rfl⟩

/-- The environment overrides four settings and leaves the others alone, warns of exactly the
variables that misname something, once each, and changes nothing the second time. -/
theorem override_settles (env : Environment) (c : Settings) :
    OverriddenBy env c (override env c).1 ∧
    (∀ name value, (∃ w ∈ (override env c).2, w.name = name ∧ w.value = value) ↔
      Misnames env name value) ∧
    ((override env c).2.map OverrideWarning.name).Nodup ∧
    (∀ w : OverrideWarning, ∃ rest,
      w.text = "Warning: Invalid " ++ w.name ++ " value '" ++ w.value ++ "'" ++ rest) ∧
    (override env (override env c).1).1 = (override env c).1 := by
  have h := overriddenBy_override env c
  refine ⟨h, exists_warning_iff_misnames env c, nodup_warnings env c, exists_text_eq, ?_⟩
  exact (overriddenBy_override env _).unique h.again

end Settings

end Blueprint
