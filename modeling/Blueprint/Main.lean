import Blueprint.CommandLine.Place
import Std.Time

/-!
# The program

Copies what a command line may touch from the local disk, runs it on the copy, writes what became
of the copy back and prints the texts. A watch goes on in this way whenever its snapshot changes,
until it is interrupted.
-/

namespace Blueprint.CommandLine

/-! ### Surroundings -/

def variableNames : List String :=
  ["HOME", "XDG_CONFIG_HOME", "TERM", "NO_COLOR", Settings.outDirVariable,
    Settings.storeDirVariable, Settings.failOnVariable, Settings.verbosityVariable] ++
    Terminal.Capabilities.serviceVariables ++ Terminal.Capabilities.localeVariables

def readEnvironment : IO Environment := do
  let found ← variableNames.mapM fun name => do
    return (← IO.getEnv name).map fun value => (name, value)
  return .ofList (found.filterMap id)

/-- A moment with as many digits of its second as it needs, in groups of three. -/
def momentText (t : IO.FS.SystemTime) : String :=
  let nanoseconds := t.nsec.toNat
  let moment := Std.Time.DateTime.ofTimestampWithZone
    (.ofNanosecondsSinceUnixEpoch ⟨t.sec * 1000000000 + nanoseconds⟩) .UTC
  if nanoseconds % 1000000000 = 0 then moment.format "uuuu-MM-dd'T'HH:mm:ss'Z'"
  else if nanoseconds % 1000000 = 0 then moment.format "uuuu-MM-dd'T'HH:mm:ss.SSS'Z'"
  else if nanoseconds % 1000 = 0 then moment.format "uuuu-MM-dd'T'HH:mm:ss.SSSSSS'Z'"
  else moment.format "uuuu-MM-dd'T'HH:mm:ss.SSSSSSSSS'Z'"

def timeOfDay : IO String := return (← Std.Time.PlainTime.now).toTime24Hour

/-- When files were saved. -/
def readTimes (files : List Path) : IO (Path → SavedTime) := do
  let now := (← Std.Time.Timestamp.now).toSecondsSinceUnixEpoch.val
  let times ← files.mapM fun p => do
    let modified := (← (← IO.FS.realPath p.text).metadata).modified
    return (p, SavedTime.mk (momentText modified) (now - modified.sec).toNat)
  return fun p => ((times.find? (·.1 == p)).map (·.2)).getD ⟨"", 0⟩

/-! ### The disk -/

def locationText (l : Location) : String := "/" ++ "/".intercalate l

/-- Copies what stands at a location, unless it was copied before. -/
def copyEntry (d : Disk) (l : Location) : IO Disk := do
  if (d.entry? l).isSome then return d
  match ← (IO.FS.realPath (locationText l)).toBaseIO with
  | .error _ => return d
  | .ok place =>
    if ← place.isDir then return d.put l .directory
    match ← (IO.FS.readBinFile place).toBaseIO with
    | .ok bytes => return d.put l (.file bytes.toList)
    | .error _ => return d

/-- Copies what stands on the way that components go from a location. -/
def copyWay (d : Disk) (l : Location) : List Component → IO (Disk × Location)
  | [] => return (d, l)
  | .root :: rest => copyWay d [] rest
  | .current :: rest => copyWay d l rest
  | .parent :: rest => copyWay d l.dropLast rest
  | .name s :: rest => do copyWay (← copyEntry d (l ++ [s])) (l ++ [s]) rest

def copyPlace (d : Disk) : Place → IO Disk
  | .entry p => return (← copyWay d d.cwd p.components).1
  | .folder p => do
    let (d, l) ← copyWay d d.cwd p.components
    if d.entry? l = some .directory then
      let files ← (← IO.FS.realPath (locationText l)).readDir
      files.foldlM (fun d f => copyEntry d (l ++ [f.fileName])) d
    else return d

def copy (d : Disk) (places : List Place) : IO Disk := places.foldlM copyPlace d

/-- Puts a file in place of another as a whole. -/
def putFile (l : Location) (bytes : List UInt8) : IO Unit := do
  let draft := locationText l ++ ".tmp"
  IO.FS.writeBinFile draft ⟨bytes.toArray⟩
  IO.FS.rename draft (locationText l)

/-- Does to the local disk what was done to its copy. -/
def writeBack (before after : Disk) : IO Unit := do
  for (l, _) in before.entries do
    if (after.entry? l).isNone then IO.FS.removeFile (locationText l)
  for (l, e) in after.entries.reverse do
    if before.entry? l ≠ some e then
      match e with
      | .directory => IO.FS.createDirAll (locationText l)
      | .file bytes => putFile l bytes

/-! ### Running -/

def tell (out err : String) : IO Unit := do
  IO.print out
  (← IO.getStdout).flush
  IO.eprint err

/-- How long a watch waits between two looks at its snapshot, in milliseconds. -/
def pause : UInt32 := 50

/-- Goes on with a watch while nothing interrupts it. -/
partial def follow (s : Session) (w : Watch) (out : Option Path) (last : WatchState Disk) :
    IO Unit := do
  IO.sleep pause
  let d ← copy (.blank last.files.cwd) [.entry w.snapshot]
  match d.readText w.snapshot with
  | .error _ => follow s w out last
  | .ok text =>
    if last.content.toOption = some text then follow s w out last
    else
      let d ← copy d (s.targets d w.snapshot out)
      let next := w.run { last with files := d, events := [], compiled := [] } (Watch.edit text)
      let s := { s with around := { s.around with clock := ← timeOfDay } }
      let (told, errors) := s.watchTold next.events next.compiled
      writeBack d next.files
      tell told errors
      follow s w out next

def watch (s : Session) (d : Disk) (l : Language) (snapshot : Path) (out : Option Path) :
    IO Unit := do
  let w := s.watchOf l snapshot out
  let state := w.run (w.start (d.readText snapshot) d) [.proceed, .proceed]
  let (told, errors) := s.watchTold state.events state.compiled
  writeBack d state.files
  tell (s.watchHead w ++ told) errors
  follow s w out state

def conclude (before : Disk) (r : Reply) : IO UInt32 := do
  writeBack before r.disk
  tell r.out r.err
  return r.code.toUInt32

def perform (around : Surroundings) (d : Disk) (words : List String) (i : Invocation) :
    IO UInt32 := do
  let d ← copy d (Place.settings around.env (Session.workingDirectory d) i)
  let d ← copy d ((Place.snapshot? i.task).toList.map .entry)
  match Session.load around d i with
  | .error _ => conclude d (run around d words)
  | .ok (s, told) =>
    let d ← copy d (s.places d i.task)
    let dir := (s.store d).dir
    let saved ← readTimes (((d.list dir).toOption.getD []).map dir.push)
    match i.task, Language.find? s.settings.generate.language with
    | .watch snapshot out, some l =>
      if (Session.watchFailure? d snapshot).isNone then
        tell "" told
        watch s d l snapshot out
        return 0
      else conclude d (run around d words)
    | _, _ => conclude d (run { around with saved := saved } d words)

def execute (words : List String) : IO UInt32 := do
  let env ← readEnvironment
  let d := Disk.blank ((← IO.currentDir).components.filter (!·.isEmpty))
  let terminal ← (← IO.getStdout).isTty
  let around : Surroundings := ⟨env, terminal, ← timeOfDay, fun _ => ⟨"", 0⟩⟩
  match read words with
  | .error stop => conclude d (stop.reply d)
  | .ok i => perform around d words i

end Blueprint.CommandLine

def main (words : List String) : IO UInt32 := Blueprint.CommandLine.execute words
