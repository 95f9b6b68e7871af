import Blueprint.Json.Value
import Blueprint.Text.Quoted

/-!
# Decoding JSON values

A value is decoded into a type of the domain or refused with the first thing that does not fit. A
record may be an object, whose members are looked at in key order before a missing one counts, or
an array of its fields in order. A name of a fixed set may be a string or an object with that name
as its only key.
-/

namespace Blueprint.Json

inductive Misfit where
  | wrongType (found : String) (expected : String)
  | wrongValue (found : String) (expected : String)
  | wrongLength (length : Nat) (expected : String)
  | missingField (name : String)
  | unknownVariant (name : String) (known : List String)
  deriving DecidableEq

/-- The names a variant may have, as they are offered to a reader. -/
def oneOf (known : List String) : String :=
  match known.map fun n => s!"`{n}`" with
  | [] => "there are no variants"
  | [a] => "expected " ++ a
  | [a, b] => "expected " ++ a ++ " or " ++ b
  | names => "expected one of " ++ ", ".intercalate names

def Misfit.message : Misfit → String
  | .wrongType found expected => s!"invalid type: {found}, expected {expected}"
  | .wrongValue found expected => s!"invalid value: {found}, expected {expected}"
  | .wrongLength n expected => s!"invalid length {n}, expected {expected}"
  | .missingField name => s!"missing field `{name}`"
  | .unknownVariant name known => s!"unknown variant `{name}`, {oneOf known}"

/-- What a value is called where another was expected. -/
def Value.describe : Value → String
  | .null => "null"
  | .bool b => s!"boolean `{b}`"
  | .number (.double bits) => s!"floating point `{(Number.double bits).text}`"
  | .number n => s!"integer `{n.text}`"
  | .string s => "string " ++ Text.quoted s
  | .array _ => "sequence"
  | .object _ => "map"

def refuse {α : Type} (v : Value) (expected : String) : Except Misfit α :=
  .error (.wrongType v.describe expected)

def decodeString : Value → Except Misfit String
  | .string s => .ok s
  | v => refuse v "a string"

def decodeWord : Value → Except Misfit UInt32
  | .number (.nat n) =>
    if n.toNat < UInt32.size then .ok n.toUInt32
    else .error (.wrongValue (Value.number (.nat n)).describe "u32")
  | .number (.negative n) => .error (.wrongValue (Value.number (.negative n)).describe "u32")
  | v => refuse v "u32"

def decodeList {α : Type} (item : Value → Except Misfit α) : Value → Except Misfit (List α)
  | .array vs => vs.mapM item
  | v => refuse v "a sequence"

/-- A name of a fixed set; `unit` decides which values may stand beside the name as a key. -/
def decodeName (known : List String) (unit : Value → Bool) : Value → Except Misfit String
  | .string s => if known.contains s then .ok s else .error (.unknownVariant s known)
  | .object [(s, v)] =>
    if known.contains s then if unit v then .ok s else refuse v "unit"
    else .error (.unknownVariant s known)
  | .object _ => .error (.wrongValue "map" "map with a single key")
  | v => refuse v "string or map"

def isNull : Value → Bool
  | .null => true
  | _ => false

/-- Inside a tagged record an empty object is as good as nothing. -/
def isNothing : Value → Bool
  | .null => true
  | .object [] => true
  | _ => false

/-! ### Records as objects -/

def optional {α : Type} (ms : List Member) (key : String) (decode : Value → Except Misfit α) :
    Except Misfit (Option α) :=
  match ms.find? (·.1 == key) with
  | some (_, v) => (decode v).map some
  | none => .ok none

def required {α : Type} (key : String) : Option α → Except Misfit α
  | some a => .ok a
  | none => .error (.missingField key)

/-! ### Records as arrays -/

def item {α : Type} (vs : List Value) (i : Nat) (whole : String)
    (decode : Value → Except Misfit α) : Except Misfit α :=
  match vs[i]? with
  | some v => decode v
  | none => .error (.wrongLength i whole)

def itemOr {α : Type} (vs : List Value) (i : Nat) (absent : α)
    (decode : Value → Except Misfit α) : Except Misfit α :=
  match vs[i]? with
  | some v => decode v
  | none => .ok absent

def noMore (vs : List Value) (n : Nat) : Except Misfit Unit :=
  if vs.length ≤ n then .ok () else .error (.wrongLength vs.length "fewer elements in array")

end Blueprint.Json
