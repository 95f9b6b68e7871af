import Blueprint.Failure
import Blueprint.Graph.Basic
import Blueprint.Text.Basic

/-!
# Project stores

A store keeps graphs under the names of projects, one for each name. A name has to do as a single
file name, whatever the store. Listing tells every name with the number of its blocks, sorted.
-/

namespace Blueprint

structure ProjectEntry where
  name : String
  nodeCount : Nat
  deriving DecidableEq, Inhabited

/-- Sorts by a name. -/
def sortByName {α : Type} (name : α → String) (as : List α) : List α :=
  as.mergeSort fun a b => name a ≤ name b

namespace ProjectName

/-- What is wrong with a name. -/
def fault? (name : String) : Option String :=
  if Text.blank name then some "name is empty"
  else if name = "." ∨ name = ".." then some "name is a relative path component"
  else if name.toList.any fun c => c = '/' || c = '\\' then some "name contains a path separator"
  else if name.toList.any Text.isControl then some "name contains control characters"
  else none

def check (name : String) : Except StoreFailure Unit :=
  match fault? name with
  | some reason => .error (.invalidName name reason)
  | none => .ok ()

end ProjectName

/-- Where projects are kept. Deleting a project that is not there succeeds. -/
class GraphStore (σ : Type) where
  save : σ → String → Graph → Except StoreFailure Unit × σ
  load : σ → String → Except StoreFailure (Option Graph)
  entries : σ → Except StoreFailure (List ProjectEntry)
  delete : σ → String → Except StoreFailure Unit × σ

end Blueprint
