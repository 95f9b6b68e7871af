import Blueprint.Proofs.Settings.Plain

/-!
# Layers of settings

Files that are accepted on their own load together. What they come to is told setting by setting:
the environment comes before the file of the project, that before the file of the user, and the
defaults come last. An explicit file takes the place of both files.
-/

namespace Blueprint

open Toml

/-- The document that a file holds. -/
def Settings.document? (d : Disk) (file : Path) : Option Item :=
  (d.readText file).toOption.bind Toml.parse?

namespace Choices

/-- The choices of a file. One that is not there makes none. -/
def ofFile (d : Disk) (file : Path) : Choices :=
  ((Settings.document? d file).map ofDocument).getD none

/-- What files choose together, each laid over those before it. -/
def ofFiles (d : Disk) (base : Choices) (files : List Path) : Choices :=
  files.foldl (fun c file => (ofFile d file).above c) base

/-- The choices of the user's file, if there is a place for one. -/
def ofUser (d : Disk) (env : Environment) : Choices :=
  ((Settings.userFile? env).map (ofFile d)).getD none

end Choices

namespace Settings

variable {d : Disk} {env : Environment} {file : Path} {files : List Path}

/-- A file that loads on its own, with sections that are tables of scalars. -/
def Accepted (d : Disk) (file : Path) : Prop :=
  (loadFile d file).isOk = true ∧ ∀ root ∈ document? d file, Tabular root
  deriving Decidable

theorem ofFile_of_not_present (h : ¬ d.present file) : Choices.ofFile d file = Choices.none := by
  have hstat : ∃ e, d.stat file = .error e := by
    cases hs : d.stat file with
    | error e => exact ⟨e, rfl⟩
    | ok e => simp [Disk.present, hs] at h
  obtain ⟨e, hstat⟩ := hstat
  have hread : d.readText file = .error e := by
    rw [Disk.readText, Disk.readBytes, hstat]
    rfl
  rw [Choices.ofFile, document?, hread]
  rfl

/-! ### Files -/

theorem Accepted.readLayer (h : Accepted d file) : ∃ l, readLayer d file = .ok l ∧
    Plain l.members ∧ Choices.ofMembers l.members = Choices.ofFile d file := by
  obtain ⟨hok, htab⟩ := h
  obtain ⟨loaded, hload⟩ : ∃ loaded, loadFile d file = .ok loaded := by
    cases hload : loadFile d file with
    | error e => simp [hload, Except.isOk, Except.toBool] at hok
    | ok loaded => exact ⟨loaded, rfl⟩
  obtain ⟨l, hl, -⟩ := bind_eq_ok_iff.mp hload
  obtain ⟨content, hcontent, hread⟩ := bind_eq_ok_iff.mp hl
  obtain ⟨root, e, hparse, hdecode, hmembers, -⟩ := readText_eq_ok hread
  have hroot : document? d file = some root := by
    rw [document?, mapError_eq_ok_iff.mp hcontent]
    exact hparse
  refine ⟨l, hl, hmembers ▸ Plain.of_file (htab root hroot) hdecode, ?_⟩
  rw [hmembers, Choices.ofMembers_valueMembers, Choices.ofFile, hroot]
  rfl

/-! ### Layers -/

/-- Accepted files are read, and laid over a plain table their layers choose what the files do, laid
over its choices. -/
theorem exists_layers (h : ∀ file ∈ files, Accepted d file) {base : List (String × Value)}
    (hbase : Plain base) : ∃ layers, files.mapM (readLayer d) = .ok layers ∧
      Plain (layers.foldl (fun ms l => merge ms l.members) base) ∧
      Choices.ofMembers (layers.foldl (fun ms l => merge ms l.members) base) =
        Choices.ofFiles d (Choices.ofMembers base) files := by
  -- The first file is laid over what is below, and the others over what that gives.
  induction files generalizing base with
  | nil => exact ⟨[], rfl, hbase, rfl⟩
  | cons file files ih =>
      rw [List.forall_mem_cons] at h
      obtain ⟨l, hl, hplain, hchoices⟩ := h.1.readLayer
      obtain ⟨layers, hlayers, hplain', hchoices'⟩ := ih h.2 (hbase.merge hplain)
      refine ⟨l :: layers, ?_, hplain', ?_⟩
      · rw [List.mapM_cons, hl, ok_bind, hlayers]
        rfl
      · rw [List.foldl_cons, hchoices', hbase.ofMembers_merge hplain, hchoices]
        rfl

/-- Accepted files load to what they choose. -/
theorem load_of_accepted {root : Path} {explicit : Option Path}
    (h : ∀ file ∈ layerFiles d env root explicit, Accepted d file) :
    ∃ unknown, load d env root explicit = .ok
      ((Choices.ofFiles d .none (layerFiles d env root explicit)).settle, unknown) := by
  obtain ⟨layers, hlayers, hplain, hchoices⟩ := exists_layers h Plain.nil
  obtain ⟨e, hdecode⟩ := hplain.exists_decode
  have hsettled := hplain.decode_eq hdecode
  rw [hchoices] at hsettled
  refine ⟨layers.flatMap Layer.unknown, ?_⟩
  have hcombine (last : Path) : combine last layers = .ok e.1 := by
    rw [combine, overlayLayers, hdecode]
  rw [load, hlayers, ok_bind, hcombine, ok_bind, hsettled]
  rfl

theorem choice_fst {α : Type} (env : Environment) (name : String) (valid : List String)
    (parse? : String → Option α) (fallback : α) :
    (choice env name valid parse? fallback).1 = ((env name).bind parse?).getD fallback := by
  rw [choice]
  cases env name with
  | none => rfl
  | some value => cases h : parse? value <;> simp [h]

/-- The environment is laid over what files choose. -/
theorem override_settle (env : Environment) (c : Choices) :
    (override env c.settle).1 = ((Choices.ofEnvironment env).above c).settle := by
  have hor {α : Type} (top bottom : Option α) (a : α) :
      (top.or bottom).getD a = top.getD (bottom.getD a) := by cases top <;> rfl
  simp only [override, choice_fst, Choices.settle, Choices.above, Choices.ofEnvironment, hor,
    Option.or_assoc]
  rfl

theorem ofFiles_filter_present (base : Choices) :
    Choices.ofFiles d base (files.filter d.present) = Choices.ofFiles d base files := by
  induction files generalizing base with
  | nil => rfl
  | cons file files ih =>
      rw [List.filter_cons]
      split_ifs with hpresent
      · exact ih _
      · rw [ih, Choices.ofFiles, Choices.ofFiles, List.foldl_cons, ofFile_of_not_present hpresent,
          Choices.none_above]

/-- Of the files that are looked for, that of the project is laid over that of the user. -/
theorem ofFiles_layerFiles (d : Disk) (env : Environment) (root : Path) :
    Choices.ofFiles d .none (layerFiles d env root none) =
      (Choices.ofFile d (root.join projectFile)).above (Choices.ofUser d env) := by
  rw [layerFiles, ofFiles_filter_present, Choices.ofUser]
  cases userFile? env with
  | none => rfl
  | some file => exact congrArg _ (Choices.above_none _)

/-- Accepted files load, and the environment, the file of the project, the file of the user and the
defaults settle each setting in this order. An explicit file takes the place of both files. -/
theorem load_settles (d : Disk) (env : Environment) (root : Path) :
    ((∀ file, file ∈ userFile? env ∨ file = root.join projectFile → d.present file →
        Accepted d file) →
      ∃ c unknown, load d env root none = .ok (c, unknown) ∧
        (override env c).1 = ((Choices.ofEnvironment env).above
          ((Choices.ofFile d (root.join projectFile)).above (Choices.ofUser d env))).settle) ∧
    ∀ file, Accepted d file →
      ∃ c unknown, load d env root (some file) = .ok (c, unknown) ∧
        (override env c).1 =
          ((Choices.ofEnvironment env).above (Choices.ofFile d file)).settle := by
  constructor
  · intro h
    have haccepted : ∀ file ∈ layerFiles d env root none, Accepted d file := by
      intro file hfile
      obtain ⟨hmem, hpresent⟩ := List.mem_filter.mp hfile
      refine h file ?_ hpresent
      rwa [List.mem_append, Option.mem_toList, List.mem_singleton] at hmem
    obtain ⟨unknown, hload⟩ := load_of_accepted haccepted
    exact ⟨_, unknown, hload, by rw [override_settle, ofFiles_layerFiles]⟩
  · intro file h
    have haccepted : ∀ f ∈ layerFiles d env root (some file), Accepted d f := by
      intro f hf
      exact List.mem_singleton.mp hf ▸ h
    obtain ⟨unknown, hload⟩ := load_of_accepted haccepted
    refine ⟨_, unknown, hload, ?_⟩
    rw [override_settle, layerFiles, Choices.ofFiles, List.foldl_cons, List.foldl_nil,
      Choices.above_none]

/-- A disk with a file of the user and one of a project, which hold different kinds of things at a
key that no setting has. -/
def layeredDisk : Disk where
  cwd := ["work"]
  entries := [(["work"], .directory), (["home"], .directory), (["home", "archlab"], .directory),
    (["home", "archlab", "config.toml"], .file
      ("[generate]\nout_dir = \"lib\"\nlanguage = \"java\"\n[theme]\nink = 1\n").toUTF8.toList),
    (["work", "archlab.toml"], .file
      ("theme = 2\n[generate]\nout_dir = \"src\"\n[output]\nunicode = false\n").toUTF8.toList)]

/-- An environment with a place for the user's file, a verbosity, and no severity that is known. -/
def layeredEnvironment : Environment := .ofList
  [("XDG_CONFIG_HOME", "/home"), ("ARCHLAB_VERBOSITY", "debug"), ("ARCHLAB_FAIL_ON", "never")]

theorem load_settles_of_layeredDisk :
    (∃ c unknown, load layeredDisk layeredEnvironment ⟨"/work"⟩ none = .ok (c, unknown) ∧
      (override layeredEnvironment c).1 =
        ⟨⟨⟨"src"⟩, .error, true, "java"⟩, ⟨none⟩, ⟨.debug, .auto, false⟩⟩) ∧
    ∃ c unknown, load layeredDisk layeredEnvironment ⟨"/work"⟩
        (some ⟨"/home/archlab/config.toml"⟩) = .ok (c, unknown) ∧
      (override layeredEnvironment c).1 =
        ⟨⟨⟨"lib"⟩, .error, true, "java"⟩, ⟨none⟩, ⟨.debug, .auto, true⟩⟩ := by
  have huser : Accepted layeredDisk ⟨"/home/archlab/config.toml"⟩ := by decide +kernel
  have hproject : Accepted layeredDisk (Path.join ⟨"/work"⟩ projectFile) := by decide +kernel
  have hplace : userFile? layeredEnvironment = some ⟨"/home/archlab/config.toml"⟩ := by
    decide
  constructor
  · obtain ⟨c, unknown, hload, hsettled⟩ :=
      (load_settles layeredDisk layeredEnvironment ⟨"/work"⟩).1 <| by
        rintro file (hfile | rfl) -
        · rw [hplace, Option.mem_some_iff] at hfile
          exact hfile ▸ huser
        · exact hproject
    exact ⟨c, unknown, hload, hsettled.trans (by decide +kernel)⟩
  · obtain ⟨c, unknown, hload, hsettled⟩ :=
      (load_settles layeredDisk layeredEnvironment ⟨"/work"⟩).2 _ huser
    exact ⟨c, unknown, hload, hsettled.trans (by decide +kernel)⟩

end Settings

end Blueprint
