import Blueprint.Json.Fault
import Blueprint.Json.Value

/-!
# Reading JSON

`Value.parse` reads one value and nothing after it. Objects come out in key order, and of two
members with one key the later stays. Containers may be nested `depthLimit` deep. Loops over
items, members and characters take fewer steps than the whole text has characters, which is where
they get the number of steps that they may take.
-/

namespace Blueprint.Json

def isSpace (c : Char) : Bool := c = ' ' || c = '\n' || c = '\t' || c = '\r'

def skipSpace (s : List Char) : List Char := s.dropWhile isSpace

/-- The rest of a word whose first character has been read. -/
def readWord : List Char → List Char → Except Mishap (List Char)
  | [], s => .ok s
  | _ :: _, [] => failAt .endInValue []
  | w :: ws, c :: s => if c = w then readWord ws s else failIn .wordExpected (c :: s)

/-! ### Strings -/

def readHex (s : List Char) : Except Mishap (Nat × List Char) :=
  match s with
  | a :: b :: c :: d :: rest =>
    match Text.hexValue? a, Text.hexValue? b, Text.hexValue? c, Text.hexValue? d with
    | some a, some b, some c, some d => .ok (((a * 16 + b) * 16 + c) * 16 + d, rest)
    | _, _, _, _ => .error ⟨.badEscape, Text.byteSize s - 4⟩
  | _ =>
    if Text.byteSize s < 4 then failAt .endInString []
    else .error ⟨.badEscape, Text.byteSize s - 4⟩

/-- The second half of a pair of escapes that stand for one character. -/
def readLowSurrogate (high : Nat) (s : List Char) : Except Mishap (Char × List Char) :=
  match s with
  | [] => failAt .endInString []
  | '\\' :: [] => failAt .endInString []
  | '\\' :: 'u' :: rest => do
    let (low, rest) ← readHex rest
    if 0xDC00 ≤ low ∧ low ≤ 0xDFFF then
      .ok (Char.ofNat (0x10000 + (high - 0xD800) * 0x400 + (low - 0xDC00)), rest)
    else failAt .loneSurrogate rest
  | '\\' :: rest => failIn .escapeCutShort rest
  | s => failIn .escapeCutShort s

/-- What stands after a backslash. -/
def readEscape (s : List Char) : Except Mishap (Char × List Char) :=
  match s with
  | [] => failAt .endInString []
  | 'u' :: rest => do
    let (n, rest) ← readHex rest
    if 0xDC00 ≤ n ∧ n ≤ 0xDFFF then failAt .loneSurrogate rest
    else if 0xD800 ≤ n ∧ n ≤ 0xDBFF then readLowSurrogate n rest
    else .ok (Char.ofNat n, rest)
  | '"' :: rest => .ok ('"', rest)
  | '\\' :: rest => .ok ('\\', rest)
  | '/' :: rest => .ok ('/', rest)
  | 'b' :: rest => .ok ('\x08', rest)
  | 'f' :: rest => .ok ('\x0c', rest)
  | 'n' :: rest => .ok ('\n', rest)
  | 'r' :: rest => .ok ('\r', rest)
  | 't' :: rest => .ok ('\t', rest)
  | s => failIn .badEscape s

/-- The characters up to the closing quote. -/
def readChars : Nat → List Char → Except Mishap (List Char × List Char)
  | 0, s => failAt .endInString s
  | _, [] => failAt .endInString []
  | n + 1, c :: rest =>
    if c = '"' then .ok ([], rest)
    else if c = '\\' then do
      let (c, rest) ← readEscape rest
      let (cs, rest) ← readChars n rest
      .ok (c :: cs, rest)
    else if c.toNat < 0x20 then failIn .controlCharacter (c :: rest)
    else do
      let (cs, rest) ← readChars n rest
      .ok (c :: cs, rest)

/-- A string whose opening quote has been read. -/
def readString (steps : Nat) (s : List Char) : Except Mishap (String × List Char) := do
  let (cs, rest) ← readChars steps s
  .ok (String.ofList cs, rest)

/-! ### Numbers -/

/-- Appends digits to a number as long as it stays below `2 ^ 64`; the count of appended digits. -/
def appendDigits : Nat → List Char → Nat × Nat
  | n, [] => (n, 0)
  | n, d :: ds =>
    let m := 10 * n + (d.toNat - 48)
    if m < UInt64.size then
      let (r, k) := appendDigits m ds
      (r, k + 1)
    else (n, 0)

/-- Divides by `10 ^ 308` until the exponent is at least -308 or nothing is left. -/
def raiseExponent : Nat → Float → Int → Float × Int
  | 0, x, e => (x, e)
  | n + 1, x, e =>
    if e < -308 && x != 0.0 then raiseExponent n (x / Float.ofScientific 1 false 308) (e + 308)
    else (x, e)

/-- The double for `significand · 10 ^ exponent`, or nothing when it is too large. -/
def scaledFloat? (significand : Nat) (exponent : Int) : Option Float :=
  let (x, e) := raiseExponent 4 (UInt64.ofNat significand).toFloat exponent
  if x == 0.0 then some x
  else if 308 < e then none
  else if 0 ≤ e then
    let y := x * Float.ofScientific 1 false e.toNat
    if y.isInf then none else some y
  else some (x / Float.ofScientific 1 false (-e).toNat)

def finishFloat (positive : Bool) (significand : Nat) (exponent : Int) (rest : List Char) :
    Except Mishap (Number × List Char) :=
  match scaledFloat? significand exponent with
  | some x => .ok (.ofFloat (if positive then x else -x), rest)
  | none => failAt .numberOutOfRange rest

/-- Reads digits into a number; past `2 ^ 31 - 1` stops with what follows the digit that led
there. -/
def exponentDigits : Nat → List Char → Except (List Char) (Nat × List Char)
  | n, [] => .ok (n, [])
  | n, d :: rest =>
    if d.isDigit then
      let m := 10 * n + (d.toNat - 48)
      if m < UInt32.size / 2 then exponentDigits m rest else .error rest
    else .ok (n, d :: rest)

/-- What stands after an `e`. -/
def readExponent (positive : Bool) (significand : Nat) (exponent : Int) (s : List Char) :
    Except Mishap (Number × List Char) :=
  let (raises, s) := match s with
    | '+' :: s => (true, s)
    | '-' :: s => (false, s)
    | s => (true, s)
  match s with
  | [] => failAt .endInValue []
  | c :: _ =>
    if c.isDigit then
      match exponentDigits 0 s with
      | .ok (e, rest) =>
        finishFloat positive significand (if raises then exponent + e else exponent - e) rest
      | .error rest =>
        if significand != 0 && raises then failAt .numberOutOfRange rest
        else .ok (.ofFloat (if positive then 0.0 else -0.0), rest.dropWhile Char.isDigit)
    else failIn .badNumber s

/-- What stands after the digits of a number that is no integer below `2 ^ 64`. -/
def readScale (positive : Bool) (significand : Nat) (exponent : Int) (s : List Char) :
    Except Mishap (Number × List Char) :=
  match s with
  | 'e' :: rest => readExponent positive significand exponent rest
  | 'E' :: rest => readExponent positive significand exponent rest
  | s => finishFloat positive significand exponent s

/-- What stands after a point. -/
def readFraction (positive : Bool) (significand : Nat) (exponent : Int) (s : List Char) :
    Except Mishap (Number × List Char) :=
  let digits := s.takeWhile Char.isDigit
  let rest := s.dropWhile Char.isDigit
  if digits.isEmpty then
    match rest with
    | [] => failAt .endInValue []
    | _ => failIn .badNumber rest
  else
    let (n, k) := appendDigits significand digits
    readScale positive n (exponent - k) rest

def integer (positive : Bool) (n : Nat) : Number :=
  if positive then .nat (UInt64.ofNat n)
  else if 0 < n ∧ n ≤ UInt64.size / 2 then .negative (Int64.ofInt (-n))
  else .ofFloat (-(UInt64.ofNat n).toFloat)

/-- A number whose sign has been read. -/
def readNumber (positive : Bool) (s : List Char) : Except Mishap (Number × List Char) :=
  let digits := s.takeWhile Char.isDigit
  let rest := s.dropWhile Char.isDigit
  match digits with
  | [] =>
    match s with
    | [] => failAt .endInValue []
    | _ => failIn .badNumber s
  | '0' :: _ :: _ => failIn .badNumber (s.drop 1)
  | digits =>
    let (n, k) := appendDigits 0 digits
    let skipped := digits.length - k
    match rest with
    | '.' :: rest => readFraction positive n skipped rest
    | rest =>
      if skipped = 0 && rest.head? != some 'e' && rest.head? != some 'E' then
        .ok (integer positive n, rest)
      else readScale positive n skipped rest

/-! ### Containers -/

/-- The items up to the closing bracket; `first` says that none has been read. -/
def readItems (value : List Char → Except Mishap (Value × List Char)) :
    Nat → Bool → List Char → Except Mishap (List Value × List Char)
  | 0, _, s => failAt .endInList s
  | n + 1, first, s =>
    let item (s : List Char) : Except Mishap (List Value × List Char) := do
      let (v, s) ← value s
      let (vs, s) ← readItems value n false s
      .ok (v :: vs, s)
    match skipSpace s with
    | [] => failIn .endInList []
    | c :: rest =>
      if c = ']' then .ok ([], rest)
      else if first then item (c :: rest)
      else if c = ',' then
        match skipSpace rest with
        | [] => failIn .endInValue []
        | d :: rest => if d = ']' then failIn .trailingComma (d :: rest) else item (d :: rest)
      else failIn .listEndExpected (c :: rest)

/-- One member, from the opening quote of its key. -/
def readMember (value : List Char → Except Mishap (Value × List Char)) (steps : Nat)
    (s : List Char) : Except Mishap (Member × List Char) :=
  match s with
  | '"' :: s => do
    let (k, s) ← readString steps s
    match skipSpace s with
    | [] => failIn .endInObject []
    | ':' :: s =>
      let (v, s) ← value s
      .ok ((k, v), s)
    | s => failIn .colonExpected s
  | s => failIn .keyNotString s

def readMembers (value : List Char → Except Mishap (Value × List Char)) (steps : Nat) :
    Nat → Bool → List Char → Except Mishap (List Member × List Char)
  | 0, _, s => failAt .endInObject s
  | n + 1, first, s =>
    let member (s : List Char) : Except Mishap (List Member × List Char) := do
      let (m, s) ← readMember value steps s
      let (ms, s) ← readMembers value steps n false s
      .ok (m :: ms, s)
    match skipSpace s with
    | [] => failIn .endInObject []
    | c :: rest =>
      if c = '}' then .ok ([], rest)
      else if first then member (c :: rest)
      else if c = ',' then
        match skipSpace rest with
        | [] => failIn .endInValue []
        | d :: rest => if d = '}' then failIn .trailingComma (d :: rest) else member (d :: rest)
      else failIn .objectEndExpected (c :: rest)

/-- A value with containers nested at most `depth` deep, by loops of fewer than `steps` steps. -/
def readValue (steps : Nat) : Nat → List Char → Except Mishap (Value × List Char)
  | depth, s =>
    match skipSpace s with
    | [] => failIn .endInValue []
    | c :: rest =>
      if c = 'n' then do
        let rest ← readWord ['u', 'l', 'l'] rest
        .ok (.null, rest)
      else if c = 't' then do
        let rest ← readWord ['r', 'u', 'e'] rest
        .ok (.bool true, rest)
      else if c = 'f' then do
        let rest ← readWord ['a', 'l', 's', 'e'] rest
        .ok (.bool false, rest)
      else if c = '-' then do
        let (n, rest) ← readNumber false rest
        .ok (.number n, rest)
      else if c.isDigit then do
        let (n, rest) ← readNumber true (c :: rest)
        .ok (.number n, rest)
      else if c = '"' then do
        let (t, rest) ← readString steps rest
        .ok (.string t, rest)
      else if c = '[' then
        match depth with
        | 0 => failIn .tooDeep (c :: rest)
        | depth + 1 => do
          let (vs, rest) ← readItems (readValue steps depth) steps true rest
          .ok (.array vs, rest)
      else if c = '{' then
        match depth with
        | 0 => failIn .tooDeep (c :: rest)
        | depth + 1 => do
          let (ms, rest) ← readMembers (readValue steps depth) steps steps true rest
          .ok (.record ms, rest)
      else failIn .valueExpected (c :: rest)

def depthLimit : Nat := 127

def Value.parse (text : String) : Except Mishap Value := do
  let s := text.toList
  let (v, rest) ← readValue (s.length + 1) depthLimit s
  match skipSpace rest with
  | [] => .ok v
  | rest => failIn .trailingCharacters rest

end Blueprint.Json
