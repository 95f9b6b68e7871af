import Blueprint.CommandLine.Run

/-!
# Places

Which parts of the disk a command line may read or change. They are found in three steps, because
the settings say where the output is and the snapshot says which files it has.
-/

namespace Blueprint.CommandLine

/-- A place on the disk: whatever stands at a path, or also the files in a directory there. -/
inductive Place where
  | entry (p : Path)
  | folder (p : Path)
  deriving DecidableEq

namespace Place

/-- The files of settings. -/
def settings (env : Environment) (root : Path) (i : Invocation) : List Place :=
  match i.config with
  | some file => [.entry file]
  | none => ((Settings.userFile? env).toList ++ [root.join Settings.projectFile]).map .entry

def snapshot? : Task → Option Path
  | .check snapshot => some snapshot
  | .generate snapshot .. => some snapshot
  | .diff snapshot _ => some snapshot
  | .show snapshot _ => some snapshot
  | .inspect snapshot => some snapshot
  | .watch snapshot _ => some snapshot
  | .saveProject _ snapshot => some snapshot
  | .starter _ => none
  | .loadProject .. => none
  | .listProjects => none
  | .deleteProject .. => none

end Place

namespace Session

variable (s : Session) (d : Disk)

/-- The files that are generated from a snapshot. -/
def targets (snapshot : Path) (out : Option Path) : List Place :=
  match Language.find? s.settings.generate.language, Snapshot.importFrom d snapshot with
  | some l, .ok g =>
    ((l.compile g).files.filterMap fun f => (Output.resolve (s.outDir out) f.path).toOption).map
      .entry
  | _, _ => []

def storeFile (name : String) : List Place :=
  let store := s.store d
  [.entry (store.projectPath name), .entry (store.dir.push DirectoryStore.lockName)]

/-- What a task may touch besides its snapshot. -/
def places : Task → List Place
  | .check _ => []
  | .generate snapshot out .. => s.targets d snapshot out
  | .diff snapshot out => s.targets d snapshot out
  | .show .. => []
  | .inspect _ => []
  | .watch snapshot out => s.targets d snapshot out
  | .starter out => out.toList.map .entry
  | .saveProject name _ => s.storeFile d name
  | .loadProject name out => s.storeFile d name ++ out.toList.map .entry
  | .listProjects => [.folder (s.store d).dir]
  | .deleteProject name _ => s.storeFile d name

end Session

end Blueprint.CommandLine
