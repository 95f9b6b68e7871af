import Blueprint.Disk.FileSystem
import Blueprint.Settings.Decode
import Blueprint.Settings.Override
import Blueprint.Text.Basic
import Blueprint.Toml.Document

/-!
# Loading settings

The files of settings are laid over each other: the user's, and over it that of the project. An
explicit file takes the place of both. Every file must be acceptable on its own, and the keys of a
file that are not known are reported with it.
-/

namespace Blueprint

open Toml

/-- A key that no setting has. -/
structure UnknownKey where
  key : String
  file : Path
  line : Option Nat
  suggestion : Option String
  deriving DecidableEq

namespace UnknownKey

/-- The number of the first line that holds a text. -/
def lineOf (content part : String) : Option Nat :=
  ((Text.lines content).findIdx? (Text.contains · part)).map (· + 1)

def candidates : List String :=
  ["generate", "out_dir", "fail_on", "skip_unchanged", "language", "store", "dir", "output",
    "verbosity", "color", "unicode"]

/-- The part of a key after its last dot. -/
def lastPart (name : String) : String :=
  String.ofList (name.toList.reverse.takeWhile (· != '.')).reverse

def ofKey (file : Path) (content : String) (key : Key) : UnknownKey :=
  let name := lastPart key.name
  ⟨name, file, lineOf content name, Text.closest name candidates⟩

end UnknownKey

namespace Settings

/-- What a file holds, once it is acceptable. -/
structure Layer where
  members : List (String × Value)
  settings : Settings
  unknown : List UnknownKey

def readText (file : Path) (content : String) : Except Failure Layer :=
  match Toml.parse? content with
  | none => .error (.config file "the text is not well-formed TOML")
  | some root =>
    match decode .file root with
    | .error c => .error (.config file (c.text content))
    | .ok (settings, keys) =>
      let members := match root.value with
        | .table ms => ms
        | _ => []
      .ok ⟨members, settings, keys.map (UnknownKey.ofKey file content)⟩

def readLayer (d : Disk) (file : Path) : Except Failure Layer := do
  readText file (← (d.readText file).mapError fun e => .io e.text)

def projectFile : Path := ⟨"archlab.toml"⟩

/-- The home directory that the environment names. Where it names none, none is known: the user
database of the system is not asked. -/
def homeDirectory? (env : Environment) : Option Path := (env.filled "HOME").map Path.mk

def userFile? (env : Environment) : Option Path :=
  (((env.filled "XDG_CONFIG_HOME").map Path.mk).or
    ((homeDirectory? env).map (·.push ".config"))).map (·.push "archlab/config.toml")

/-- The files that are read. Those that are only looked for may be missing. -/
def layerFiles (d : Disk) (env : Environment) (root : Path) : Option Path → List Path
  | some file => [file]
  | none => ((userFile? env).toList ++ [root.join projectFile]).filter d.present

def overlayLayers (layers : List Layer) : List (String × Value) :=
  layers.foldl (fun base l => merge base l.members) []

/-- The settings that all layers come to; the last file answers for what is wrong with them. -/
def combine (file : Path) (layers : List Layer) : Except Failure Settings :=
  match decode .merged (Item.ofValue (.table (overlayLayers layers))) with
  | .ok (c, _) => .ok c
  | .error c => .error (.config file (c.text none))

def load (d : Disk) (env : Environment) (root : Path) (explicit : Option Path) :
    Except Failure (Settings × List UnknownKey) := do
  let files := layerFiles d env root explicit
  let layers ← files.mapM (readLayer d)
  let settings ← combine (files.getLast?.getD projectFile) layers
  return (settings, layers.flatMap Layer.unknown)

/-- The settings of a single file. -/
def loadFile (d : Disk) (file : Path) : Except Failure (Settings × List UnknownKey) := do
  let layer ← readLayer d file
  return (← combine file [layer], layer.unknown)

end Settings

end Blueprint
