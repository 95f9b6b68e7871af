/-!
# Texts

What reading and writing have in common: how long a text is in bytes, its lines, what is blank in
it, what stands in it, how it is filled up, and bytes as digits.
-/

namespace Blueprint.Text

/-!
### Sizes in bytes

How many bytes the UTF-8 form of a text has, for places that are counted in bytes.
-/

def byteSize : List Char → Nat
  | [] => 0
  | c :: rest => c.utf8Size + byteSize rest

theorem byteSize_append (s t : List Char) : byteSize (s ++ t) = byteSize s + byteSize t := by
  induction s with
  | nil => simp [byteSize]
  | cons c s ih => simp [byteSize, ih, Nat.add_assoc]

/-!
### Lines

A text is a sequence of lines, each ended by a line feed or by a carriage return and a line feed.
An unended last line counts when it is not empty; a carriage return at its end belongs to it.
-/

/-- Drops the carriage return before a line feed. -/
def chompReturn (line : List Char) : List Char :=
  if line.getLast? = some '\r' then line.dropLast else line

/-- The lines of a text, where `acc` holds the current line read so far, last character first. -/
def linesFrom : List Char → List Char → List (List Char)
  | acc, [] => if acc.isEmpty then [] else [acc.reverse]
  | acc, '\n' :: rest => chompReturn acc.reverse :: linesFrom [] rest
  | acc, c :: rest => linesFrom (c :: acc) rest

def lines (s : String) : List String := (linesFrom [] s.toList).map String.ofList

/-- Each line is ended by a line feed. -/
def unlines (ls : List String) : String := String.join (ls.map (· ++ "\n"))

def joinLines (ls : List String) : String := "\n".intercalate ls

/-!
### Blank text

The characters of Unicode's `White_Space` property, and trimming by them. A blank text is one
that trimming empties.
-/

def isBlank (c : Char) : Bool :=
  let n := c.toNat
  (9 ≤ n && n ≤ 13) || n == 0x20 || n == 0x85 || n == 0xA0 || n == 0x1680 ||
    (0x2000 ≤ n && n ≤ 0x200A) || n == 0x2028 || n == 0x2029 || n == 0x202F || n == 0x205F ||
    n == 0x3000

/-- Drops from the end instead of the front. -/
def dropEndWhile (p : Char → Bool) (s : List Char) : List Char :=
  (s.reverse.dropWhile p).reverse

def trim (s : String) : String :=
  String.ofList (dropEndWhile isBlank (s.toList.dropWhile isBlank))

def blank (s : String) : Bool := s.toList.all isBlank

/-- Control characters: the C0 and C1 ranges and the delete character. -/
def isControl (c : Char) : Bool :=
  c.toNat < 0x20 || (0x7F ≤ c.toNat && c.toNat ≤ 0x9F)

/-!
### Search

Whether one text stands in another in one piece.
-/

def holds (part : List Char) : List Char → Bool
  | [] => part.isEmpty
  | c :: rest => part.isPrefixOf (c :: rest) || holds part rest

def contains (s part : String) : Bool := holds part.toList s.toList

/-!
### Padding

Texts are filled up with spaces to a number of characters.
-/

def spaces (n : Nat) : String := String.ofList (List.replicate n ' ')

def padRight (n : Nat) (s : String) : String := s ++ spaces (n - s.length)

def padLeft (n : Nat) (s : String) : String := spaces (n - s.length) ++ s

def repeated (n : Nat) (s : String) : String := String.join (List.replicate n s)

/-!
### Hexadecimal text

Two lower-case digits a byte.
-/

def hexDigit (n : Nat) : Char :=
  if n < 10 then Char.ofNat (48 + n) else Char.ofNat (87 + n)

def hex (bytes : List UInt8) : String :=
  String.ofList (bytes.flatMap fun b => [hexDigit (b.toNat / 16), hexDigit (b.toNat % 16)])

def hexValue? (c : Char) : Option Nat :=
  if '0' ≤ c ∧ c ≤ '9' then some (c.toNat - 48)
  else if 'a' ≤ c ∧ c ≤ 'f' then some (c.toNat - 87)
  else if 'A' ≤ c ∧ c ≤ 'F' then some (c.toNat - 55)
  else none

def unhexFrom : List Char → Option (List UInt8)
  | [] => some []
  | a :: b :: rest => do
    let x ← hexValue? a
    let y ← hexValue? b
    return UInt8.ofNat (16 * x + y) :: (← unhexFrom rest)
  | [_] => none

def unhex? (s : String) : Option (List UInt8) := unhexFrom s.toList

end Blueprint.Text
