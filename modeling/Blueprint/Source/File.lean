import Blueprint.Digest.Sha256
import Blueprint.Graph.Basic

/-!
# Source files

Generated files have a path that begins with `/` and is meant below some output directory. A
`Language` says how each kind of block is written. `Graph.sources` holds one file for each block,
kind by kind; paths may repeat, and `repeatedPaths` names those that do.
-/

namespace Blueprint

structure SourceFile where
  path : String
  content : String
  deriving DecidableEq, Inhabited

namespace SourceFile

def relativePath (f : SourceFile) : String := String.ofList (f.path.toList.dropWhile (· = '/'))

def hash (f : SourceFile) : String := contentHash f.content

def size (f : SourceFile) : Nat := f.content.utf8ByteSize

end SourceFile

def Kind.directory : Kind → String
  | .valueObject => "/Domain/ValueObjects"
  | .entity => "/Domain/Entities"
  | .aggregate => "/Domain/Aggregates"
  | .repository => "/Application/Ports"
  | .useCase => "/Application/UseCases"

/-- A target language: how a block of a graph is written. References that do not resolve never
keep a block from being written. -/
structure Language where
  name : String
  extension : String
  emit : Graph → (k : Kind) → k.Node → String

namespace Language

def path (l : Language) (k : Kind) (name : String) : String :=
  k.directory ++ "/" ++ name ++ "." ++ l.extension

def file (l : Language) (g : Graph) (k : Kind) (n : k.Node) : SourceFile :=
  ⟨l.path k (k.nodeName n), l.emit g k n⟩

end Language

def Graph.kindSources (g : Graph) (l : Language) (k : Kind) : List SourceFile :=
  (g.nodes k).map (l.file g k)

def Graph.sources (g : Graph) (l : Language) : List SourceFile :=
  Kind.all.flatMap (g.kindSources l)

/-- The paths that stand a second time in the second list, where the first holds the paths before
it. -/
def repeatsAfter : List String → List String → List String
  | _, [] => []
  | before, p :: rest =>
    if before.count p = 1 then p :: repeatsAfter (p :: before) rest
    else repeatsAfter (p :: before) rest

/-- Each path that occurs more than once, in the order of second occurrences. -/
def repeatedPaths (files : List SourceFile) : List String := repeatsAfter [] (files.map (·.path))

end Blueprint
