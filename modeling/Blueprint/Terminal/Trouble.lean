import Blueprint.Terminal.Block

/-!
# Trouble

What ends a command: a failure, or a message of the command itself with the contexts around it,
the outermost last. `Trouble.message` is one line of thought, from the outside in.
-/

namespace Blueprint

inductive Trouble where
  | failure (f : Failure)
  | other (message : String) (contexts : List String)
  deriving DecidableEq

namespace Trouble

/-- A refusal of the operating system is told once by the failure and once by itself. -/
def message : Trouble → String
  | .failure (.io text) => (Failure.io text).message ++ ": " ++ text
  | .failure f => f.message
  | .other message contexts => ": ".intercalate (contexts.reverse ++ [message])

def render (look : Terminal.Look) : Trouble → String
  | .failure f => (Terminal.failureBlock f).render look
  | .other message contexts => s!"[ERROR] {(other message contexts).message}\n"

end Trouble

end Blueprint
