import Blueprint.Path

/-!
# Failures

Everything that can go wrong outside validation, and its wording. Refusals of an operating system
come with the text that it gives them.
-/

namespace Blueprint

/-- What the operating system refuses to do. -/
inductive SystemFault where
  | notFound
  | alreadyThere
  | notDirectory
  | isDirectory
  | nameTooLong
  | notUtf8
  | nulByte
  deriving DecidableEq

def SystemFault.text : SystemFault → String
  | .notFound => "No such file or directory (os error 2)"
  | .alreadyThere => "File exists (os error 17)"
  | .notDirectory => "Not a directory (os error 20)"
  | .isDirectory => "Is a directory (os error 21)"
  | .nameTooLong => "File name too long (os error 36)"
  | .nulByte => "file name contained an unexpected NUL byte"
  | .notUtf8 => "stream did not contain valid UTF-8"

/-- Why a file could not be read or written. -/
inductive FileFailure where
  | notFound (path : Path)
  | permissionDenied (path : Path)
  | io (text : String)
  | other (text : String)
  deriving DecidableEq

namespace FileFailure

def message : FileFailure → String
  | .notFound path => s!"File not found: {path.text}"
  | .permissionDenied path => s!"Permission denied: {path.text}"
  | .io text => s!"I/O error: {text}"
  | .other text => text

def ofFault (path : Path) : SystemFault → FileFailure
  | .notFound => .notFound path
  | f => .io f.text

end FileFailure

inductive StoreFailure where
  | invalidName (name reason : String)
  | access (message : String)
  | serialization (name message : String)
  | corrupted (name message : String)
  deriving DecidableEq

def StoreFailure.message : StoreFailure → String
  | .invalidName name reason => s!"invalid project name '{name}': {reason}"
  | .access message => s!"failed to access project store: {message}"
  | .serialization name message => s!"failed to serialize project '{name}': {message}"
  | .corrupted name message =>
    s!"project '{name}' is corrupted\n  → Fix: re-save it or delete it\n" ++
      s!"  → Run: archlab project delete {name}\n  → Details: {message}"

inductive Failure where
  | io (text : String)
  | invalidSnapshot (message : String)
  | unnamedSnapshot
  | snapshotNotFound (path : Path)
  | config (file : Path) (message : String)
  | pathEscape (path : String) (root : Path)
  | projectNotFound (name : String)
  | store (f : StoreFailure)
  | file (f : FileFailure)
  | watch (message : String)
  deriving DecidableEq

def Failure.message : Failure → String
  | .io text => s!"IO error: {text}"
  | .invalidSnapshot message => s!"invalid snapshot: {message}"
  | .unnamedSnapshot =>
    "invalid snapshot: missing meta.name\n  → Fix: add \"meta\": \x7b \"name\": \"...\", " ++
      "\"version\": 1 \x7d"
  | .snapshotNotFound path => s!"snapshot not found: {path.text}"
  | .config settings message => s!"invalid config in {settings.text}: {message}"
  | .pathEscape path root => s!"path '{path}' escapes output directory '{root.text}'"
  | .projectNotFound name => s!"project '{name}' not found\n  → Run: archlab project list"
  | .store f => f.message
  | .file f => f.message
  | .watch message => s!"watch error: {message}"

end Blueprint
