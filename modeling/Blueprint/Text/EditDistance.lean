/-!
# Edit distance

The least number of insertions, deletions and replacements of single bytes between the UTF-8
forms of two texts, computed row by row: a row holds the distances of one prefix of the first text
to every prefix of the second. Two rows take turns: what is read was finished last, and what is
written replaces the row before it. `closest` picks the first nearest candidate within two edits.
-/

namespace Blueprint.Text

/-- Writes the entries of a row after its first over those that stand there. `corner` is the entry
above and to the left, `left` the entry just written, and the second list holds the entries
above. -/
def writeFrom (x : UInt8) : List UInt8 → List Nat → Nat → Nat → List Nat → List Nat
  | y :: ys, above :: row, corner, left, _ :: old =>
    let entry := min (min (above + 1) (left + 1)) (corner + if x = y then 0 else 1)
    entry :: writeFrom x ys row above entry old
  | _, _, _, _, old => old

/-- The row that was finished last, and the one that is written over next. -/
structure Rows where
  above : List Nat
  spare : List Nat

/-- Writes the row of a byte, which is given with its place, and lets the rows take turns. -/
def Rows.next (ys : List UInt8) (r : Rows) : UInt8 × Nat → Rows
  | (x, i) =>
    match r.above, r.spare with
    | corner :: above, _ :: old => ⟨(i + 1) :: writeFrom x ys above corner (i + 1) old, r.above⟩
    | _, spare => ⟨spare, r.above⟩

def Rows.start (n : Nat) : Rows := ⟨List.range (n + 1), List.replicate (n + 1) 0⟩

def bytesDistance (xs ys : List UInt8) : Nat :=
  (xs.zipIdx.foldl (Rows.next ys) (Rows.start ys.length)).above[ys.length]?.getD 0

def editDistance (a b : String) : Nat :=
  if a = b then 0
  else
    let xs := a.toUTF8.toList
    let ys := b.toUTF8.toList
    if xs.isEmpty then ys.length
    else if ys.isEmpty then xs.length
    else bytesDistance xs ys

/-- The best candidate so far with its distance, after one more was looked at. -/
def nearer (input : String) (best : Option (String × Nat)) (candidate : String) :
    Option (String × Nat) :=
  let n := editDistance input candidate
  match best with
  | some (c, m) => if m ≤ n then some (c, m) else some (candidate, n)
  | none => some (candidate, n)

def closest (input : String) (candidates : List String) : Option String :=
  match candidates.foldl (nearer input) none with
  | some (c, n) => if n ≤ 2 then some c else none
  | none => none

end Blueprint.Text
