import Blueprint.Json.Fault
import Blueprint.Text.Basic
import Blueprint.Toml.Item

/-!
# Reading TOML scalars

Strings in their four forms, numbers, dates and times. A reader takes characters from the front
and gives back the rest, or refuses the text.
-/

namespace Blueprint.Toml

def isSpace (c : Char) : Bool := c = ' ' || c = '\t'

def skipSpace (s : List Char) : List Char := s.dropWhile isSpace

/-- A line feed, after a carriage return or not. -/
def newline? : List Char → Option (List Char)
  | '\n' :: rest => some rest
  | '\r' :: '\n' :: rest => some rest
  | _ => none

/-- What may stand in a comment. -/
def isCommentChar (c : Char) : Bool := c = '\t' || (0x20 ≤ c.toNat && c.toNat ≠ 0x7F)

/-- Drops a comment up to the end of its line. -/
def skipComment : List Char → List Char
  | '#' :: rest => rest.dropWhile isCommentChar
  | s => s

/-- Drops blanks, comments and line ends. -/
def skipLines : Nat → List Char → List Char
  | 0, s => s
  | n + 1, s =>
    let t := skipComment (skipSpace s)
    match newline? t with
    | some rest => skipLines n rest
    | none => t

/-! ### Strings -/

/-- The value of exactly `n` hexadecimal digits. -/
def readHex : Nat → Nat → List Char → Option (Nat × List Char)
  | 0, v, s => some (v, s)
  | _ + 1, _, [] => none
  | n + 1, v, c :: rest => (Text.hexValue? c).bind fun d => readHex n (16 * v + d) rest

def scalarValue? (n : Nat) (s : List Char) : Option (Char × List Char) :=
  (readHex n 0 s).bind fun (v, rest) =>
    if h : v.isValidChar then some (Char.ofNatAux v h, rest) else none

/-- What stands after a backslash. -/
def readEscape : List Char → Option (Char × List Char)
  | 'b' :: rest => some ('\x08', rest)
  | 't' :: rest => some ('\t', rest)
  | 'n' :: rest => some ('\n', rest)
  | 'f' :: rest => some ('\x0c', rest)
  | 'r' :: rest => some ('\r', rest)
  | '"' :: rest => some ('"', rest)
  | '\\' :: rest => some ('\\', rest)
  | 'u' :: rest => scalarValue? 4 rest
  | 'U' :: rest => scalarValue? 8 rest
  | _ => none

/-- A string on one line, after its opening quote. -/
def readBasic : Nat → List Char → Option (List Char × List Char)
  | 0, _ => none
  | _, [] => none
  | n + 1, c :: rest =>
    if c = '"' then some ([], rest)
    else if c = '\\' then do
      let (c, rest) ← readEscape rest
      let (cs, rest) ← readBasic n rest
      return (c :: cs, rest)
    else if isCommentChar c then do
      let (cs, rest) ← readBasic n rest
      return (c :: cs, rest)
    else none

def readLiteral (s : List Char) : Option (List Char × List Char) :=
  let body := s.takeWhile fun c => isCommentChar c && c != '\''
  match s.drop body.length with
  | '\'' :: rest => some (body, rest)
  | _ => none

/-- The quotes at the end of a string over several lines: three close it, and one or two more
belong to it. -/
def closing? (quote : Char) (s : List Char) : Option (List Char × List Char) :=
  let quotes := (s.takeWhile (· = quote)).take 5
  if 3 ≤ quotes.length then some (quotes.drop 3, s.drop quotes.length) else none

/-- Blanks and line ends after a backslash at the end of a line. -/
def skipBreak : Nat → List Char → List Char
  | 0, s => s
  | n + 1, s =>
    let t := skipSpace s
    match newline? t with
    | some rest => skipBreak n rest
    | none => t

/-- A string over several lines, after its opening quotes. -/
def readMultiline (quote : Char) : Nat → List Char → Option (List Char × List Char)
  | 0, _ => none
  | n + 1, s =>
    match closing? quote s with
    | some r => some r
    | none =>
      match newline? s with
      | some rest => do
        let (cs, rest) ← readMultiline quote n rest
        return ('\n' :: cs, rest)
      | none =>
        match s with
        | [] => none
        | c :: rest =>
          if c = '\\' && quote = '"' then
            match newline? (skipSpace rest) with
            | some after => readMultiline quote n (skipBreak (after.length + 1) after)
            | none => do
              let (c, rest) ← readEscape rest
              let (cs, rest) ← readMultiline quote n rest
              return (c :: cs, rest)
          else if isCommentChar c then do
            let (cs, rest) ← readMultiline quote n rest
            return (c :: cs, rest)
          else none

def readString (s : List Char) : Option (String × List Char) :=
  let result := match s with
    | '"' :: '"' :: '"' :: rest =>
      readMultiline '"' (rest.length + 1) ((newline? rest).getD rest)
    | '\'' :: '\'' :: '\'' :: rest =>
      readMultiline '\'' (rest.length + 1) ((newline? rest).getD rest)
    | '"' :: rest => readBasic (rest.length + 1) rest
    | '\'' :: rest => readLiteral rest
    | _ => none
  result.map fun (cs, rest) => (String.ofList cs, rest)

/-! ### Numbers -/

/-- Digits with single underscores between them. -/
def readDigits (digit : Char → Bool) : Nat → List Char → Option (List Char × List Char)
  | 0, _ => none
  | _, [] => none
  | n + 1, c :: rest =>
    if digit c then
      match rest with
      | '_' :: after => (readDigits digit n after).map fun (ds, rest) => (c :: ds, rest)
      | d :: _ =>
        if digit d then (readDigits digit n rest).map fun (ds, rest) => (c :: ds, rest)
        else some ([c], rest)
      | [] => some ([c], [])
    else none

def readDecimalDigits (s : List Char) : Option (List Char × List Char) :=
  readDigits Char.isDigit (s.length + 1) s

def readSign : List Char → Bool × List Char
  | '-' :: rest => (true, rest)
  | '+' :: rest => (false, rest)
  | s => (false, s)

/-- A decimal integer without zeros in front. -/
def readWhole (s : List Char) : Option (Bool × List Char × List Char) :=
  let (negative, s) := readSign s
  match s with
  | '0' :: rest => some (negative, ['0'], rest)
  | s => (readDecimalDigits s).map fun (ds, rest) => (negative, ds, rest)

def digitsValue (base : Nat) (ds : List Char) : Nat :=
  ds.foldl (fun v d => base * v + (Text.hexValue? d).getD 0) 0

def readExponent : List Char → Option (Int × List Char)
  | e :: rest =>
    if e = 'e' || e = 'E' then
      let (negative, s) := readSign rest
      (readDecimalDigits s).map fun (ds, rest) =>
        let v : Int := digitsValue 10 ds
        (if negative then -v else v, rest)
    else none
  | [] => none

/-- The double nearest to `digits · 10 ^ exponent`. Exponents that are far out are cut off. -/
def nearestDouble (digits : Nat) (exponent : Int) : Float :=
  let e := (exponent.natAbs).min 100000
  Float.ofScientific digits (exponent < 0) e

def readFloat (s : List Char) : Option (Scalar × List Char) := do
  let (negative, whole, rest) ← readWhole s
  let (fraction, exponent, rest) ← match rest with
    | '.' :: after => do
      let (fs, rest) ← readDecimalDigits after
      match readExponent rest with
      | some (e, rest) => some (fs, e, rest)
      | none => some (fs, 0, rest)
    | _ => do
      let (e, rest) ← readExponent rest
      some ([], e, rest)
  let x := nearestDouble (digitsValue 10 (whole ++ fraction)) (exponent - fraction.length)
  if x.isInf && !negative then none
  else some (.float (if negative then -x else x).toBits, rest)

def word? : List Char → List Char → Option (List Char)
  | [], s => some s
  | w :: ws, c :: rest => if w = c then word? ws rest else none
  | _ :: _, [] => none

def readSpecial (s : List Char) : Option (Scalar × List Char) :=
  let (negative, t) := readSign s
  let signed (x : Float) : Scalar := .float (if negative then -x else x).toBits
  match word? ['i', 'n', 'f'] t with
  | some rest => some (signed (1.0 / 0.0), rest)
  | none => (word? ['n', 'a', 'n'] t).map fun rest => (signed (0.0 / 0.0), rest)

def inRange (negative : Bool) (n : Nat) : Option Int :=
  if negative then if n ≤ UInt64.size / 2 then some (-n) else none
  else if n < UInt64.size / 2 then some n else none

def isDigitOf (base : Nat) (c : Char) : Bool := (Text.hexValue? c).any (· < base)

def readInteger (s : List Char) : Option (Scalar × List Char) :=
  let based (base : Nat) (s : List Char) : Option (Scalar × List Char) := do
    let (ds, rest) ← readDigits (isDigitOf base) (s.length + 1) s
    return (.integer (← inRange false (digitsValue base ds)), rest)
  match s with
  | '0' :: 'x' :: rest => based 16 rest
  | '0' :: 'o' :: rest => based 8 rest
  | '0' :: 'b' :: rest => based 2 rest
  | s => do
    let (negative, ds, rest) ← readWhole s
    return (.integer (← inRange negative (digitsValue 10 ds)), rest)

/-! ### Dates and times -/

/-- Exactly `n` digits with a value between two bounds. -/
def readField (n lo hi : Nat) (s : List Char) : Option (List Char × List Char) :=
  let ds := s.take n
  if ds.length = n && ds.all Char.isDigit && lo ≤ digitsValue 10 ds && digitsValue 10 ds ≤ hi then
    some (ds, s.drop n)
  else none

def readChar (c : Char) : List Char → Option (List Char)
  | d :: rest => if d = c then some rest else none
  | [] => none

def daysIn (year month : Nat) : Nat :=
  if month = 2 then
    if year % 4 = 0 && (year % 100 ≠ 0 || year % 400 = 0) then 29 else 28
  else if month = 4 || month = 6 || month = 9 || month = 11 then 30
  else 31

/-- What became of a try: it was something else, it was faulty, or it was read. -/
inductive Attempt (α : Type) where
  | other
  | faulty
  | read (a : α) (rest : List Char)

def attempt {α : Type} : Option (α × List Char) → Attempt α
  | some (a, rest) => .read a rest
  | none => .faulty

def readDate (s : List Char) : Attempt (List Char) :=
  match (readField 4 0 9999 s).bind fun (y, s) => (readChar '-' s).map (y, ·) with
  | none => .other
  | some (y, s) => attempt do
    let (m, s) ← readField 2 1 12 s
    let s ← readChar '-' s
    let (d, s) ← readField 2 1 (daysIn (digitsValue 10 y) (digitsValue 10 m)) s
    return (y ++ '-' :: m ++ '-' :: d, s)

def readTime (s : List Char) : Attempt (List Char) :=
  match (readField 2 0 23 s).bind fun (h, s) => (readChar ':' s).map (h, ·) with
  | none => .other
  | some (h, s) => attempt do
    let (m, s) ← readField 2 0 59 s
    let s ← readChar ':' s
    let (sec, s) ← readField 2 0 60 s
    let clock := h ++ ':' :: m ++ ':' :: sec
    match s with
    | '.' :: after =>
      let ds := after.takeWhile Char.isDigit
      if ds.isEmpty then return (clock, s)
      else
        let kept := ((ds.take 9).reverse.dropWhile (· = '0')).reverse
        return (clock ++ (if kept.isEmpty then [] else '.' :: kept), after.drop ds.length)
    | _ => return (clock, s)

def readOffset (s : List Char) : Attempt (List Char) :=
  match s with
  | c :: rest =>
    if c = 'Z' || c = 'z' then .read ['Z'] rest
    else if c = '+' || c = '-' then attempt do
      let (h, s) ← readField 2 0 23 rest
      let s ← readChar ':' s
      let (m, s) ← readField 2 0 59 s
      return (c :: h ++ ':' :: m, s)
    else .other
  | [] => .other

def readDateTime (s : List Char) : Attempt Scalar :=
  let done (cs : List Char) : Scalar := .datetime (String.ofList cs)
  match readDate s with
  | .faulty => .faulty
  | .other =>
    match readTime s with
    | .read t rest => .read (done t) rest
    | .faulty => .faulty
    | .other => .other
  | .read d rest =>
    match rest with
    | c :: after =>
      if c = 'T' || c = 't' || c = ' ' then
        match readTime after with
        | .faulty => .faulty
        | .other => .read (done d) rest
        | .read t rest =>
          match readOffset rest with
          | .faulty => .faulty
          | .other => .read (done (d ++ 'T' :: t)) rest
          | .read o rest => .read (done (d ++ 'T' :: t ++ o)) rest
      else .read (done d) rest
    | [] => .read (done d) []

/-- A number, a date or a time. -/
def readNumeric (s : List Char) : Option (Scalar × List Char) :=
  match readDateTime s with
  | .read v rest => some (v, rest)
  | .faulty => none
  | .other =>
    match readFloat s with
    | some r => some r
    | none =>
      match readSpecial s with
      | some r => some r
      | none => readInteger s

/-- Any scalar. -/
def readScalar (s : List Char) : Option (Scalar × List Char) :=
  match s with
  | [] => none
  | c :: _ =>
    if c = '"' || c = '\'' then (readString s).map fun (t, rest) => (.string t, rest)
    else if c = 't' then (word? ['t', 'r', 'u', 'e'] s).map (.boolean true, ·)
    else if c = 'f' then (word? ['f', 'a', 'l', 's', 'e'] s).map (.boolean false, ·)
    else if c = 'i' || c = 'n' then readSpecial s
    else if c.isDigit || c = '+' || c = '-' then readNumeric s
    else none

end Blueprint.Toml
