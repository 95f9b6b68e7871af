import Blueprint.CommandLine.Help
import Blueprint.CommandLine.Session
import Blueprint.Disk.FileSystem
import Blueprint.Graph.Starter
import Blueprint.Store.Directory
import Blueprint.Store.Projects
import Blueprint.Terminal.Annotation
import Blueprint.Terminal.Changes
import Blueprint.Terminal.Inspection
import Blueprint.Terminal.ProjectList
import Blueprint.Terminal.Watching
import Blueprint.Watch.Run

/-!
# Running a command line

Each task reads and writes the disk and tells the result, as events or as text. A command line that
leads to no task prints help or a complaint. Exit codes are zero for success, one for a task that
failed and two for a faulty command line.
-/

namespace Blueprint.CommandLine

open Json Terminal

namespace Session

variable (s : Session) (d : Disk)

/-! ### Tasks on one graph -/

def checkEvents (snapshot : Path) (g : Graph) (r : Report) (failed : Bool) : String :=
  eventLine "start" "check" [("snapshot", .string snapshot.text), ("graph", .string g.heading.name),
    ("node_count", .nat g.nodeCount)] ++
  String.join (r.findings.map fun f =>
    eventLine "finding" "check" [("node_id", f.node.encode),
      ("node", match g.name? f.node with
        | some name => .string name
        | none => .null),
      ("severity", .string f.severity.name), ("message", .string f.message)]) ++
  eventLine "complete" "check" [("errors", .nat r.errors), ("warnings", .nat r.warnings),
    ("success", .bool !failed)]

def checkText (snapshot : Path) (g : Graph) (r : Report) (failed : Bool) : String :=
  let look := s.look
  (checkHeader snapshot.text g s.settings.generate.failOn).render look ++
    (if r.isClean then "" else "\n" ++ findingList g r (0 < s.ui.verbose) look) ++ "\n" ++
    (checkSummary r failed).render look

/-- The findings as annotations, where a service understands them. -/
def annotations (snapshot : Path) (g : Graph) (r : Report) : String :=
  if Capabilities.annotates s.around.env then
    Text.unlines (r.findings.map fun f =>
      annotation f.severity f.message (some snapshot.text)
        (some ((g.name? f.node).getD f.node.text)))
  else ""

def check (snapshot : Path) : Effect :=
  Effect.attempt d (Snapshot.importFrom d snapshot) fun g =>
    let r := g.report
    let failed := r.fails s.settings.generate.failOn
    let out := if s.ui.json then checkEvents snapshot g r failed
      else s.checkText snapshot g r failed ++ s.annotations snapshot g r
    ⟨out, "", d, .ok (Effect.exitCode failed)⟩

def edgeValue (e : Edge) : Value :=
  .record [("source", e.source.encode), ("target", e.target.encode), ("kind", .string e.kind.tag)]

def inspect (snapshot : Path) : Effect :=
  Effect.attempt d (Snapshot.importFrom d snapshot) fun g =>
    .print d (if s.ui.json then
      eventLine "inspect" "inspect" [("graph", .string g.heading.name),
        ("version", .nat g.heading.version.toNat),
        ("counts", .record (Kind.all.map fun k => (k.tag, .nat (g.count k)))),
        ("edges", .array (g.edges.map edgeValue))]
    else inspection snapshot.text g s.look)

/-- The path of a generated file, which begins with a separator. -/
def generatedPath (path : String) : String :=
  if path.toList.head? = some '/' then path else "/" ++ path

def noSuchFile (wanted : String) (available : List String) : Trouble :=
  .other (s!"no generated file '{wanted}'" ++
    if available.isEmpty then " (the graph produces no files)"
    else "\nAvailable:\n  " ++ "\n  ".intercalate available) []

def endLine (content : String) : String :=
  if content.toList.getLast? = some '\n' then content else content ++ "\n"

def showFile (snapshot : Path) (path : String) : Effect :=
  s.withLanguage d fun l =>
    Effect.attempt d (Snapshot.importFrom d snapshot) fun g =>
      let c := l.compile g
      let wanted := generatedPath path
      match c.file? wanted with
      | none => .fail d (noSuchFile wanted (c.files.map SourceFile.path))
      | some f =>
        .print d (if s.ui.json then
          eventLine "file" "show" [("path", .string f.path), ("hash", .string f.hash),
            ("content", .string f.content)]
        else endLine f.content)

/-! ### Tasks on output directories -/

def plannedMembers (f : PlannedFile) : List Member :=
  [("path", .string f.path), ("target", .string f.target.text), ("change", .string f.change.name)]

def diffEvents (p : Plan) : String :=
  String.join (p.files.map fun f => eventLine "file" "diff" (plannedMembers f)) ++
    eventLine "complete" "diff" [("new", .nat (p.count .new)),
      ("modified", .nat (p.count .modified)), ("unchanged", .nat (p.count .unchanged))]

def diffText (snapshot out : Path) (p : Plan) : String :=
  (diffHeader snapshot.text out).render s.look ++
    (if p.hasChanges then "\n" ++ planDiffs p s.look.ink else "") ++ "\n" ++ diffSummary p s.look

def diff (snapshot : Path) (out : Option Path) : Effect :=
  let out := s.outDir out
  s.withLanguage d fun l =>
    Effect.attempt d (Snapshot.importFrom d snapshot) fun g =>
      Effect.attempt d (Plan.make d out (l.compile g).files) fun p =>
        .print d (if s.ui.json then diffEvents p else s.diffText snapshot out p)

/-- What is told about a finished run besides its events. -/
def resultEvents (r : GenerateResult) (dryRun : Bool) : String :=
  if r.blocked then
    eventLine "blocked" "generate"
      [("errors", .nat r.report.errors), ("warnings", .nat r.report.warnings)]
  else
    String.join (r.duplicates.map fun p =>
      eventLine "duplicate_path" "generate" [("path", .string p)]) ++
    if dryRun then
      String.join (r.plan.files.map fun f => eventLine "planned" "generate" (plannedMembers f))
    else ""

def resultText (r : GenerateResult) (dryRun : Bool) : String :=
  (if dryRun && !r.blocked then "\n" ++ planList r.plan s.look.ink else "") ++ "\n" ++
    (generateSummary r dryRun).render s.look

def generateFrom (l : Language) (g : Graph) (o : GenerateOptions) : Effect :=
  let sink := s.sink "generate"
  let run := l.generate g o sink.wantsDetails d
  let events := sink.render run.events
  let (out, err) := if s.ui.json then (events, "") else ("", events)
  let told : Effect := match run.outcome with
    | .error f => .fail run.files (.failure f)
    | .ok r =>
      ⟨if s.ui.json then resultEvents r o.dryRun else s.resultText r o.dryRun, "", run.files,
        .ok (Effect.exitCode !r.isSuccess)⟩
  told.after out err

def generate (snapshot : Path) (out : Option Path) (dryRun strict : Bool) : Effect :=
  let c := s.settings.generate
  let out := s.outDir out
  s.withLanguage d fun l =>
    let header := if s.ui.json then ""
      else (generateHeader snapshot.text out l.name dryRun).render s.look
    (Effect.attempt d (Snapshot.importFrom d snapshot) fun g =>
      s.generateFrom d l g
        ⟨out, dryRun, if strict then some c.failOn else none, c.skipUnchanged⟩).after header ""

/-! ### Watching -/

/-- The directory that is watched for changes of a snapshot. -/
def watchedDirectory (snapshot : Path) : Path :=
  (workingDirectory d).join (Disk.home snapshot)

/-- Why the directory cannot be watched. -/
def watchFailure? (snapshot : Path) : Option Failure :=
  let dir := watchedDirectory d snapshot
  let about := " about [" ++ Text.quoted dir.text ++ "]"
  match d.stat dir with
  | .ok _ => none
  | .error .notFound => some (.watch ("No path was found." ++ about))
  | .error e => some (.watch (e.text ++ about))

def watchText (events : List WatchEvent) : String :=
  if s.ui.json then String.join (events.map fun e => e.toJson.compact ++ "\n")
  else String.join (events.map fun e => watchLine s.around.clock e s.look)

def isError : WatchEvent → Bool
  | .error _ => true
  | _ => false

/-- What is told about events of a watch and of its compilations. Errors go to their own stream,
unless all is told as JSON. -/
def watchTold (events : List WatchEvent) (compiled : List Event) : String × String :=
  if s.ui.json then (s.watchText events, "")
  else
    (s.watchText (events.filter (!isError ·)),
      (s.sink "watch").render compiled ++ s.watchText (events.filter isError))

def watchOf (l : Language) (snapshot : Path) (out : Option Path) : Watch :=
  let o : GenerateOptions := ⟨s.outDir out, false, none, s.settings.generate.skipUnchanged⟩
  ⟨snapshot, l, o, !s.ui.json && (s.sink "watch").wantsDetails⟩

def watchHead (w : Watch) : String :=
  if s.ui.json then "" else (watchHeader w.snapshot.text w.options.out.text).render s.look

/-- Watches until it is interrupted, which happens after the first generation. -/
def watch (snapshot : Path) (out : Option Path) : Effect :=
  s.withLanguage d fun l =>
    let w := s.watchOf l snapshot out
    let trouble := watchFailure? d snapshot
    let actions := if trouble.isSome then [.proceed, .refuse] else Watch.session []
    let last := w.run (w.start (d.readText snapshot) d) actions
    let (told, errors) := s.watchTold last.events last.compiled
    ⟨s.watchHead w ++ told, errors, last.files,
      match trouble with
      | some f => .error (.failure f)
      | none => .ok 0⟩

/-! ### Snapshots and projects -/

def starter (out : Option Path) : Effect :=
  let g := Graph.starter
  match out with
  | none => .print d (Snapshot.write g ++ "\n")
  | some path =>
    let (r, d) := Snapshot.exportTo d path g
    Effect.attempt d r fun _ =>
      .print d (if s.ui.json then
        eventLine "written" "starter"
          [("path", .string path.text), ("node_count", .nat g.nodeCount)]
      else
        Icon.success.render s.look ++ s!" Wrote starter snapshot '{g.heading.name}' " ++
          s!"({g.nodeCount} nodes) to {path.text}\n")

def store : DirectoryStore :=
  ⟨s.settings.store.dir.getD (DirectoryStore.standardDir s.around.env), d⟩

def saveProject (name : String) (snapshot : Path) : Effect :=
  let (r, store) := Projects.saveFile (s.store d) d name snapshot
  Effect.attempt store.disk r fun g =>
    .print store.disk (if s.ui.json then
      eventLine "saved" "project" [("name", .string name), ("node_count", .nat g.nodeCount)]
    else
      Icon.success.render s.look ++ s!" Saved project '{name}' ({g.nodeCount} nodes) to " ++
        store.dir.text ++ "\n")

def loadProject (name : String) (out : Option Path) : Effect :=
  match out with
  | none =>
    Effect.attempt d (Projects.load (s.store d) name) fun g => .print d (Snapshot.write g ++ "\n")
  | some path =>
    let (r, d) := Projects.loadToFile (s.store d) d name path
    Effect.attempt d r fun g =>
      .print d (if s.ui.json then
        eventLine "loaded" "project" [("name", .string name), ("path", .string path.text),
          ("node_count", .nat g.nodeCount)]
      else
        Icon.success.render s.look ++ s!" Loaded project '{name}' into {path.text}\n")

def savedTime (e : ProjectEntry) : SavedTime :=
  s.around.saved ((s.store d).projectPath e.name)

def entryValue (e : ProjectEntry) : Value :=
  .record [("name", .string e.name), ("saved_at", .string (s.savedTime d e).text),
    ("node_count", .nat e.nodeCount)]

def listProjects : Effect :=
  let store := s.store d
  Effect.attempt d (Projects.list store) fun entries =>
    .print d (if s.ui.json then
      eventLine "projects" "project" [("store", .string store.dir.text),
        ("count", .nat entries.length), ("projects", .array (entries.map (s.entryValue d)))]
    else projectList (entries.map fun e => ⟨e, (s.savedTime d e).age⟩) store.dir s.look)

def deleteProject (name : String) : Effect :=
  Effect.attempt d (Projects.exists? (s.store d) name) fun found =>
    if found then
      let (r, store) := Projects.delete (s.store d) name
      Effect.attempt store.disk r fun _ =>
        .print store.disk (if s.ui.json then eventLine "deleted" "project" [("name", .string name)]
        else Icon.trash.render s.look ++ s!" Deleted project '{name}'\n")
    else .fail d (.failure (.projectNotFound name))

def perform : Task → Effect
  | .check snapshot => s.check d snapshot
  | .generate snapshot out dryRun strict => s.generate d snapshot out dryRun strict
  | .diff snapshot out => s.diff d snapshot out
  | .show snapshot path => s.showFile d snapshot path
  | .inspect snapshot => s.inspect d snapshot
  | .watch snapshot out => s.watch d snapshot out
  | .starter out => s.starter d out
  | .saveProject name snapshot => s.saveProject d name snapshot
  | .loadProject name out => s.loadProject d name out
  | .listProjects => s.listProjects d
  | .deleteProject name _ => s.deleteProject d name

end Session

/-- A finished program. -/
structure Reply where
  code : Nat
  out : String
  err : String
  disk : Disk

/-- What a program prints about the trouble that ended it. -/
def troubleReport (around : Surroundings) (json : Bool) (t : Trouble) : String × String :=
  if json then
    let event := Value.record [("event", .string "error"), ("message", .string t.message)]
    (event.compact ++ "\n", "")
  else
    (if Capabilities.annotates around.env then
      annotation .error t.message none (some programName) ++ "\n" else "",
      t.render around.capabilities.look)

def Effect.reply (around : Surroundings) (json : Bool) (e : Effect) : Reply :=
  match e.result with
  | .ok code => ⟨code, e.out, e.err, e.disk⟩
  | .error t =>
    let (out, err) := troubleReport around json t
    ⟨1, e.out ++ out, e.err ++ err, e.disk⟩

def UsageFault.message : UsageFault → String
  | .missingArgument => "a required argument was not provided"
  | .unknownArgument => "unexpected argument found"
  | .invalidValue => "invalid value for an argument"
  | .invalidCommand => "unrecognized subcommand"
  | .missingCommand => "a subcommand is required but was not provided"
  | .noArguments => "a subcommand is required but was not provided"
  | .conflict => "the argument cannot be used multiple times"
  | .tooManyValues => "unexpected value for an argument that takes none"

/-- What is printed when there is no task. -/
def Stop.reply (d : Disk) : Stop → Reply
  | .help path c => ⟨0, c.help path, "", d⟩
  | .version => ⟨0, programName ++ " " ++ versionText ++ "\n", "", d⟩
  | .fault .noArguments path c => ⟨2, "", c.help path, d⟩
  | .fault f path c =>
    ⟨2, "", s!"error: {f.message}\n\nUsage: {c.usage path}\n\n" ++
      "For more information, try '--help'.\n", d⟩

/-- Runs the program on the words of a command line. -/
def run (around : Surroundings) (d : Disk) (words : List String) : Reply :=
  match read words with
  | .error stop => stop.reply d
  | .ok i =>
    let e := Effect.attempt d (Session.load around d i) fun (s, told) =>
      (s.perform d i.task).after "" told
    e.reply around i.json

end Blueprint.CommandLine
