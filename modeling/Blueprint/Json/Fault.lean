import Blueprint.Text.Basic

/-!
# Faults in JSON text

What can be wrong with a text that should be JSON, and where. A place is the number of bytes not
yet read; `Mishap.describe` turns it into a line and a column of bytes.
-/

namespace Blueprint.Json

inductive Fault where
  | endInList
  | endInObject
  | endInString
  | endInValue
  | colonExpected
  | listEndExpected
  | objectEndExpected
  | wordExpected
  | valueExpected
  | badEscape
  | badNumber
  | numberOutOfRange
  | controlCharacter
  | keyNotString
  | loneSurrogate
  | trailingComma
  | trailingCharacters
  | escapeCutShort
  | tooDeep
  deriving DecidableEq

def Fault.message : Fault → String
  | .endInList => "EOF while parsing a list"
  | .endInObject => "EOF while parsing an object"
  | .endInString => "EOF while parsing a string"
  | .endInValue => "EOF while parsing a value"
  | .colonExpected => "expected `:`"
  | .listEndExpected => "expected `,` or `]`"
  | .objectEndExpected => "expected `,` or `\x7d`"
  | .wordExpected => "expected ident"
  | .valueExpected => "expected value"
  | .badEscape => "invalid escape"
  | .badNumber => "invalid number"
  | .numberOutOfRange => "number out of range"
  | .controlCharacter => "control character (\\u0000-\\u001F) found while parsing a string"
  | .keyNotString => "key must be a string"
  | .loneSurrogate => "lone leading surrogate in hex escape"
  | .trailingComma => "trailing comma"
  | .trailingCharacters => "trailing characters"
  | .escapeCutShort => "unexpected end of hex escape"
  | .tooDeep => "recursion limit exceeded"

/-- A fault with the number of bytes that stand after it. -/
structure Mishap where
  fault : Fault
  left : Nat
  deriving DecidableEq

/-- A fault right before the given rest. -/
def failAt {α : Type} (f : Fault) (rest : List Char) : Except Mishap α :=
  .error ⟨f, Text.byteSize rest⟩

/-- A fault one byte into the given rest, or at its end. -/
def failIn {α : Type} (f : Fault) (rest : List Char) : Except Mishap α :=
  .error ⟨f, Text.byteSize rest - 1⟩

/-- The line and the column of the byte at an offset, where the column counts the bytes since the
last line feed. -/
def lineAndColumn : Nat → List Char → Nat × Nat → Nat × Nat
  | _, [], place => place
  | offset, c :: rest, (line, column) =>
    if offset < c.utf8Size then (line, column + offset)
    else lineAndColumn (offset - c.utf8Size) rest
      (if c = '\n' then (line + 1, 0) else (line, column + c.utf8Size))

def Mishap.describe (text : String) (m : Mishap) : String :=
  let (line, column) := lineAndColumn (text.utf8ByteSize - m.left) text.toList (1, 0)
  s!"{m.fault.message} at line {line} column {column}"

end Blueprint.Json
