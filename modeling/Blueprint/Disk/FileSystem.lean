import Blueprint.Output.FileSystem

/-!
# The local disk

A disk holds files and directories at locations, lists of names that go down from its root. Paths
are looked up from the working directory, name by name: every name but the last must be a
directory. Directories stand in the table like files, and the root needs no entry.
-/

namespace Blueprint

abbrev Location := List String

inductive Entry where
  | file (bytes : List UInt8)
  | directory
  deriving DecidableEq, Inhabited

structure Disk where
  cwd : Location
  entries : List (Location × Entry)
  deriving DecidableEq, Inhabited

def decodeUtf8 (bytes : List UInt8) : Option String := String.fromUTF8? ⟨bytes.toArray⟩

namespace Disk

variable (d : Disk)

/-- A disk that holds its working directory and nothing else. -/
def blank (cwd : Location) : Disk :=
  ⟨cwd, (List.range cwd.length).map fun i => (cwd.take (i + 1), .directory)⟩

def entry? (l : Location) : Option Entry :=
  if l.isEmpty then some .directory else (d.entries.find? (·.1 == l)).map (·.2)

def put (l : Location) (e : Entry) : Disk :=
  { d with entries := (l, e) :: d.entries.filter (·.1 != l) }

def drop (l : Location) : Disk := { d with entries := d.entries.filter (·.1 != l) }

/-! ### Looking paths up -/

def nameLimit : Nat := 255

def pathLimit : Nat := 4096

def needDirectory (l : Location) : Except SystemFault Unit :=
  match d.entry? l with
  | none => .error .notFound
  | some (.file _) => .error .notDirectory
  | some .directory => .ok ()

/-- Follows components from a location. The last name need not be there. -/
def walk : Location → List Component → Except SystemFault Location
  | l, [] => .ok l
  | _, .root :: rest => walk [] rest
  | l, .current :: rest => do
    d.needDirectory l
    walk l rest
  | l, .parent :: rest => do
    d.needDirectory l
    walk l.dropLast rest
  | l, .name s :: rest => do
    d.needDirectory l
    if nameLimit < s.utf8ByteSize then .error .nameTooLong
    walk (l ++ [s]) rest

/-- Whether the spelling of a path asks for a directory. -/
def asksDirectory (p : Path) : Bool :=
  match p.text.toList.reverse with
  | '/' :: _ => true
  | '.' :: '/' :: _ => true
  | _ => false

def locate (p : Path) : Except SystemFault Location :=
  if p.text.isEmpty then .error .notFound
  else if p.text.toList.contains '\x00' then .error .nulByte
  else if pathLimit ≤ p.text.utf8ByteSize then .error .nameTooLong
  else d.walk d.cwd p.components

def stat (p : Path) : Except SystemFault Entry := do
  let l ← d.locate p
  match d.entry? l with
  | none => .error .notFound
  | some .directory => .ok .directory
  | some (.file bytes) => if asksDirectory p then .error .notDirectory else .ok (.file bytes)

def present (p : Path) : Bool :=
  match d.stat p with
  | .ok _ => true
  | .error _ => false

def isDirectory (p : Path) : Bool :=
  match d.stat p with
  | .ok .directory => true
  | _ => false

/-! ### Reading -/

def readBytes (p : Path) : Except SystemFault (List UInt8) := do
  match ← d.stat p with
  | .file bytes => .ok bytes
  | .directory => .error .isDirectory

def readText (p : Path) : Except SystemFault String := do
  match decodeUtf8 (← d.readBytes p) with
  | some text => .ok text
  | none => .error .notUtf8

/-- The name of an entry right inside a location. -/
def childName? (parent l : Location) : Option String :=
  if l.dropLast == parent then l.getLast? else none

def children (l : Location) : List String := d.entries.filterMap fun e => childName? l e.1

/-- The names in a directory, in no particular order. -/
def list (p : Path) : Except SystemFault (List String) := do
  match ← d.stat p with
  | .directory => return d.children (← d.locate p)
  | .file _ => .error .notDirectory

/-! ### Writing

Each operation gives the disk after it, also when it fails. -/

def makeDirectory (p : Path) : Except SystemFault Unit × Disk :=
  match d.locate p with
  | .error e => (.error e, d)
  | .ok l =>
    match d.entry? l with
    | some _ => (.error .alreadyThere, d)
    | none => (.ok (), d.put l .directory)

end Disk

namespace Path

def ofComponents : List Component → Path
  | [] => ⟨""⟩
  | .root :: rest => ⟨"/" ++ "/".intercalate (rest.map Component.text)⟩
  | cs => ⟨"/".intercalate (cs.map Component.text)⟩

/-- The path without its last component. -/
def parent (p : Path) : Path := ofComponents p.components.dropLast

end Path

namespace Disk

/-- Makes a directory and those above it; the components come last first. -/
def makeDirectoriesUp (d : Disk) : List Component → Except SystemFault Unit × Disk
  | [] => (.ok (), d)
  | c :: up =>
    let p := Path.ofComponents (c :: up).reverse
    let settle (r : Except SystemFault Unit × Disk) : Except SystemFault Unit × Disk :=
      match r with
      | (.ok (), d) => (.ok (), d)
      | (.error e, d) => if d.isDirectory p then (.ok (), d) else (.error e, d)
    match d.makeDirectory p with
    | (.error .notFound, d) =>
      match d.makeDirectoriesUp up with
      | (.ok (), d) => settle (d.makeDirectory p)
      | failed => failed
    | r => settle r

def makeDirectories (d : Disk) (p : Path) : Except SystemFault Unit × Disk :=
  d.makeDirectoriesUp p.components.reverse

/-- Puts a file in place of whatever file stands at a path. -/
def replace (d : Disk) (p : Path) (bytes : List UInt8) : Except SystemFault Unit × Disk :=
  match d.locate p with
  | .error e => (.error e, d)
  | .ok l =>
    if asksDirectory p then (.error .notDirectory, d)
    else
      match d.entry? l with
      | some .directory => (.error .isDirectory, d)
      | _ => (.ok (), d.put l (.file bytes))

/-- The directory that a file is written into. -/
def home (p : Path) : Path := if p.parent.text.isEmpty then ⟨"."⟩ else p.parent

/-- Writes a file as a whole or not at all, and the directories above it. -/
def writeBytes (d : Disk) (p : Path) (bytes : List UInt8) : Except FileFailure Unit × Disk :=
  match d.makeDirectories (home p) with
  | (.error e, d) => (.error (.ofFault (home p) e), d)
  | (.ok (), d) =>
    match d.replace p bytes with
    | (.error e, d) => (.error (.ofFault p e), d)
    | (.ok (), d) => (.ok (), d)

def writeText (d : Disk) (p : Path) (text : String) : Except FileFailure Unit × Disk :=
  d.writeBytes p text.toUTF8.toList

def removeFile (d : Disk) (p : Path) : Except SystemFault Unit × Disk :=
  match d.stat p with
  | .error e => (.error e, d)
  | .ok .directory => (.error .isDirectory, d)
  | .ok (.file _) =>
    match d.locate p with
    | .error e => (.error e, d)
    | .ok l => (.ok (), d.drop l)

/-- The files below the working directory, by their paths from there in the order of texts. -/
def files (d : Disk) : List (String × List UInt8) :=
  let below (e : Location × Entry) : Option (String × List UInt8) :=
    match e with
    | (l, .file bytes) =>
      if d.cwd.isPrefixOf l then some ("/".intercalate (l.drop d.cwd.length), bytes) else none
    | _ => none
  (d.entries.filterMap below).mergeSort fun a b => a.1 ≤ b.1

/-- Generated files are read and written as texts. -/
instance : FileSystem Disk where
  read d p := (d.readText p).mapError (.ofFault p)
  write d p content := d.writeText p content
  present d p := d.present p

end Disk

end Blueprint
