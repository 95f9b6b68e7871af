import Blueprint.Proofs.Settings.Unknown
import Blueprint.Proofs.Text.Closest

/-!
# Suggestions for unknown keys

With the warning about an unknown key goes the closest name that a section or a setting has. All
sections are drawn from at once, while a key is unknown in the place that it stands in. So a name
that is only out of place is its own suggestion, and no other key is.
-/

namespace Blueprint.Settings

open Toml

/-- The names of the sections and of their settings. -/
def knownNames : List String :=
  (wholeSection .file).keys.flatMap fun title => title :: settingKeys title

theorem candidates_eq_knownNames : UnknownKey.candidates = knownNames := by decide

variable {file : Path} {content name : String} {layer : Layer} {w : UnknownKey}

theorem suggestion_ofKey (file : Path) (content : String) (key : Key) :
    (UnknownKey.ofKey file content key).suggestion =
      Text.closest (UnknownKey.ofKey file content key).key knownNames := by
  rw [← candidates_eq_knownNames]
  rfl

/-- What is suggested for a key is the closest of the known names. -/
theorem suggestion_of_readText (h : readText file content = .ok layer) (hw : w ∈ layer.unknown) :
    w.suggestion = Text.closest w.key knownNames := by
  obtain ⟨root, -, -, hunknown⟩ := unknown_of_readText h
  rw [hunknown] at hw
  obtain ⟨key, -, rfl⟩ := List.mem_map.mp hw
  exact suggestion_ofKey file content key

/-- A suggestion is a known name, and it differs from the reported key exactly when that is no known
name itself. A known name that is out of place is always suggested once more. -/
theorem readText_suggestion_ne_iff (h : readText file content = .ok layer)
    (hw : w ∈ layer.unknown) :
    ((∀ s, w.suggestion = some s → s ≠ w.key) ↔ w.key ∉ knownNames) ∧
      (∀ s, w.suggestion = some s → s ∈ knownNames) ∧
      (w.key ∈ knownNames → w.suggestion = some w.key) := by
  have hclosest := suggestion_of_readText h hw
  have hknown : ∀ s, w.suggestion = some s → s ∈ knownNames := fun s hs =>
    Text.mem_of_closest (hclosest.symm.trans hs)
  have hself : w.key ∈ knownNames → w.suggestion = some w.key := fun hkey =>
    hclosest.trans (Text.closest_of_mem hkey)
  refine ⟨⟨fun hne hkey => hne w.key (hself hkey) rfl, fun hkey s hs heq => ?_⟩, hknown, hself⟩
  exact hkey (heq ▸ hknown s hs)

theorem readText_suggestion_ne_of_misspelled :
    ∃ layer w, readText ⟨"archlab.toml"⟩ misspelled = .ok layer ∧ w ∈ layer.unknown ∧
      w.key = "out_dri" ∧ w.suggestion = some "out_dir" ∧
      ∀ s, w.suggestion = some s → s ≠ w.key := by
  obtain ⟨layer, hlayer⟩ := exists_eq_ok_of_isSome
    (show (readText ⟨"archlab.toml"⟩ misspelled).toOption.isSome = true by decide +kernel)
  have hunknown : (readText ⟨"archlab.toml"⟩ misspelled).toOption.map Layer.unknown =
      some [⟨"out_dri", ⟨"archlab.toml"⟩, some 2, some "out_dir"⟩] := by decide +kernel
  rw [hlayer] at hunknown
  have hw := (Option.some.inj hunknown).symm ▸ List.mem_cons_self
  exact ⟨layer, _, hlayer, hw, rfl, rfl, (readText_suggestion_ne_iff hlayer hw).1.mpr (by decide)⟩

/-- A file with a setting of one section under the header of another. -/
def displaced : String := "[output]\ndir = \"x\"\n"

theorem exists_suggestion_eq_key : ∃ layer, readText ⟨"archlab.toml"⟩ displaced = .ok layer ∧
    ∃ w ∈ layer.unknown, w.suggestion = some w.key := by
  obtain ⟨layer, hlayer⟩ := exists_eq_ok_of_isSome
    (show (readText ⟨"archlab.toml"⟩ displaced).toOption.isSome = true by decide +kernel)
  have hunknown : (readText ⟨"archlab.toml"⟩ displaced).toOption.map Layer.unknown =
      some [⟨"dir", ⟨"archlab.toml"⟩, some 2, some "dir"⟩] := by decide +kernel
  rw [hlayer] at hunknown
  exact ⟨layer, hlayer, _, (Option.some.inj hunknown).symm ▸ List.mem_cons_self, rfl⟩

end Blueprint.Settings
