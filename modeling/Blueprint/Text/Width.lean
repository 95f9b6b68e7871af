import Blueprint.Text.Case
import Blueprint.Text.WidthTable

/-!
# Width on a terminal

The number of columns that a text takes. Most characters have a width of their own; some join the
characters after them, such as the parts of an emoji sequence or the ligatures of a few scripts.
The width is therefore summed from the end, and `Joint` holds what the next character may join.
-/

namespace Blueprint.Text

inductive Joint where
  | loose
  | lineFeed
  | textSelector
  | emojiSelector (joined : Bool)
  | emoji
  | joinedEmoji
  | modifier
  | region
  | alef
  | lamed (joined : Bool)
  | khmerLetter
  | ya (joined : Bool)
  | vowelYa
  | tifinagh (joined : Bool)
  | tifinaghJoiner
  | lisuTone
  | orkhonI (joined : Bool)
  deriving DecidableEq

def between (c : Char) (a b : Nat) : Bool := a ≤ c.toNat && c.toNat ≤ b

def isKhmerLetter (c : Char) : Bool :=
  inRanges [(0x1780, 0x1782), (0x1784, 0x1787), (0x1789, 0x178C), (0x178E, 0x1793),
    (0x1795, 0x1798), (0x179B, 0x179D), (0x17A0, 0x17A0), (0x17A2, 0x17A2), (0x17A7, 0x17A7),
    (0x17AB, 0x17AC), (0x17AF, 0x17AF)] c

def isAlef (c : Char) : Bool :=
  inRanges [(0x622, 0x623), (0x625, 0x625), (0x627, 0x627), (0x671, 0x673), (0x675, 0x675),
    (0x773, 0x774), (0x870, 0x882)] c

def isLam (c : Char) : Bool :=
  inRanges [(0x644, 0x644), (0x6B5, 0x6B8), (0x76A, 0x76A), (0x8A6, 0x8A6), (0x8C7, 0x8C7)] c

def isTifinagh (c : Char) : Bool := between c 0x2D31 0x2D65 || c.toNat == 0x2D6F

/-- Marks that do not come between the letters of a ligature. -/
def isTransparent (c : Char) : Bool :=
  inRanges [(0x34F, 0x34F), (0x17B4, 0x17B5), (0x180B, 0x180D), (0x180F, 0x180F),
    (0xFE00, 0xFE0D), (0xE0100, 0xE01EF)] c

/-- The width of a character by itself. -/
def charWidth (c : Char) : Nat :=
  if c.toNat ≤ 0xA0 then 1
  else if c.toNat = 0x17D8 then 3
  else if inRanges zeroWidthRanges c then 0
  else if inRanges wideRanges c then 2
  else 1

/-- What a character by itself lets the one before it join. -/
def jointOf (c : Char) : Joint :=
  let n := c.toNat
  if c = '\n' then .lineFeed
  else if n ≤ 0xA0 then .loose
  else if n = 0xFE0E then .textSelector
  else if n = 0xFE0F then .emojiSelector false
  else if between c 0x1F1E6 0x1F1FF then .region
  else if between c 0x1F3FB 0x1F3FF then .modifier
  else if inRanges emojiRanges c then .emoji
  else if isAlef c then .alef
  else if n = 0x5DC then .lamed false
  else if isKhmerLetter c then .khmerLetter
  else if n = 0x1A10 then .ya false
  else if isTifinagh c then .tifinagh false
  else if between c 0xA4FC 0xA4FD then .lisuTone
  else if n = 0x10C03 then .orkhonI false
  else .loose

/-- The joint after a zero-width joiner in front. -/
def Joint.join : Joint → Option Joint
  | .emoji => some .joinedEmoji
  | .modifier => some .joinedEmoji
  | .region => some .joinedEmoji
  | .lamed _ => some (.lamed true)
  | .ya _ => some (.ya true)
  | .tifinagh _ => some (.tifinagh true)
  | .orkhonI _ => some (.orkhonI true)
  | .khmerLetter => some .khmerLetter
  | .lisuTone => some .lisuTone
  | _ => none

/-- The width that a character adds in front of a joint, when they join. -/
def joined? (c : Char) : Joint → Option (Int × Joint)
  | .lineFeed => if c = '\r' then some (0, .loose) else none
  | .textSelector =>
    if inRanges variationRanges c && !between c 0x1F200 0x1F2FF then some (1, .loose) else none
  | .emojiSelector joined =>
    if inRanges variationRanges c then some (if joined then 0 else 2, .emoji) else none
  | .joinedEmoji =>
    if inRanges emojiRanges c then some (0, .emoji)
    else if between c 0x1F3FB 0x1F3FF then some (0, .modifier)
    else if c.toNat = 0xFE0F then some (0, .emojiSelector true)
    else none
  | .modifier => if inRanges modifierBaseRanges c then some (0, .modifier) else none
  | .alef =>
    if isLam c then some (0, .loose)
    else if inRanges zeroWidthRanges c then some (0, .alef)
    else none
  | .lamed true => if c.toNat = 0x5D0 then some (0, .loose) else none
  | .khmerLetter => if c.toNat = 0x17D2 then some (-1, .loose) else none
  | .ya true => if c.toNat = 0x1A17 then some (0, .vowelYa) else none
  | .vowelYa => if c.toNat = 0x1A15 then some (0, .loose) else none
  | .tifinagh joined =>
    if c.toNat = 0x2D7F then some (1, .tifinaghJoiner)
    else if joined && isTifinagh c then some (0, .loose)
    else none
  | .tifinaghJoiner => if isTifinagh c then some (-1, .loose) else none
  | .lisuTone => if between c 0xA4F8 0xA4FB then some (0, .loose) else none
  | .orkhonI true => if c.toNat = 0x10C32 then some (0, .loose) else none
  | _ => none

def stepWidth (c : Char) (j : Joint) : Int × Joint :=
  match joined? c j with
  | some r => r
  | none =>
    match if c.toNat = 0x200D then j.join else if isTransparent c then j.join.map fun _ => j
      else none with
    | some j => (0, j)
    | none => (charWidth c, jointOf c)

/-- The width of a list of characters and what it lets a character in front join. -/
def widthFrom : List Char → Int × Joint
  | [] => (0, .loose)
  | c :: rest =>
    let (w, j) := widthFrom rest
    let (v, j) := stepWidth c j
    (v + w, j)

def width (s : String) : Nat := (widthFrom s.toList).1.toNat

end Blueprint.Text
