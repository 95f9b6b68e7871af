/-!
# Line edits

A script turns the old lines of a file into the new ones: runs of lines that are kept, deleted or
inserted, each with the place of its first line on both sides. A script is found by splitting both
sides at the middle of a shortest edit path, over and over, where common lines at the front and at
the back are taken off first.
-/

namespace Blueprint.Diff

inductive Tag where
  | keep
  | delete
  | insert
  deriving DecidableEq, Inhabited

/-- `len` lines from line `old` of the old side and line `new` of the new side, counted from
zero. -/
structure Run where
  tag : Tag
  old : Nat
  new : Nat
  len : Nat
  deriving DecidableEq, Inhabited

/-- A stretch of lines of one side. -/
structure Span where
  start : Nat
  stop : Nat
  deriving DecidableEq, Inhabited

namespace Span

def len (s : Span) : Nat := s.stop - s.start

def isEmpty (s : Span) : Bool := s.stop ≤ s.start

end Span

namespace Run

def oldSpan (r : Run) : Span :=
  if r.tag = .insert then ⟨r.old, r.old⟩ else ⟨r.old, r.old + r.len⟩

def newSpan (r : Run) : Span :=
  if r.tag = .delete then ⟨r.new, r.new⟩ else ⟨r.new, r.new + r.len⟩

end Run

/-- How many lines two stretches have in common at the front, counted up to `n`. -/
def commonFront (a b : Array String) (i j : Nat) : Nat → Nat
  | 0 => 0
  | n + 1 => if a[i]? == b[j]? then commonFront a b (i + 1) (j + 1) n + 1 else 0

/-- How many lines right before two places are the same, counted up to `n`. -/
def commonBack (a b : Array String) (i j : Nat) : Nat → Nat
  | 0 => 0
  | n + 1 => if a[i - 1]? == b[j - 1]? then commonBack a b (i - 1) (j - 1) n + 1 else 0

def commonPrefix (a b : Array String) (s t : Span) : Nat :=
  commonFront a b s.start t.start (min s.len t.len)

def commonSuffix (a b : Array String) (s t : Span) : Nat :=
  commonBack a b s.stop t.stop (min s.len t.len)

/-! ### The middle of a shortest path -/

/-- The furthest places reached on each diagonal; diagonal `k` stands at index `k + offset`. -/
structure Frontier where
  offset : Nat
  reach : Array Nat

namespace Frontier

def start (size : Nat) : Frontier := ⟨size, Array.replicate (2 * size + 1) 0⟩

def get (f : Frontier) (k : Int) : Nat := f.reach.getD (k + f.offset).toNat 0

def set (f : Frontier) (k : Int) (x : Nat) : Frontier :=
  { f with reach := f.reach.setIfInBounds (k + f.offset).toNat x }

/-- Where a path of `d` edits enters diagonal `k`. -/
def enter (f : Frontier) (d k : Int) : Nat :=
  if k == -d || (k != d && f.get (k - 1) < f.get (k + 1)) then f.get (k + 1)
  else f.get (k - 1) + 1

end Frontier

/-- The diagonals that a path of `d` edits can end on, from above. -/
def diagonals (d : Nat) : List Int := (List.range (d + 1)).map fun (i : Nat) => (d : Int) - 2 * i

section Middle

variable (a b : Array String) (s t : Span)

def delta : Int := (s.len : Int) - t.len

/-- Goes on along the diagonals from the front; stops where the path from the back is met. -/
def goForward (back : Frontier) (d : Nat) : List Int → Frontier → Except (Nat × Nat) Frontier
  | [], f => .ok f
  | k :: ks, f =>
    let x := f.enter d k
    let y := ((x : Int) - k).toNat
    let more :=
      if x < s.len && 0 ≤ (x : Int) - k && y < t.len then
        commonFront a b (s.start + x) (t.start + y) (min (s.len - x) (t.len - y))
      else 0
    let f := f.set k (x + more)
    let across := k - delta s t
    if delta s t % 2 ≠ 0 && across.natAbs + 1 ≤ d && s.len ≤ x + more + back.get (-across) then
      .error (s.start + x, t.start + y)
    else goForward back d ks f

/-- Goes on along the diagonals from the back; stops where the path from the front is met. -/
def goBackward (front : Frontier) (d : Nat) : List Int → Frontier → Except (Nat × Nat) Frontier
  | [], f => .ok f
  | k :: ks, f =>
    let x := f.enter d k
    let y := ((x : Int) - k).toNat
    let more :=
      if x < s.len && 0 ≤ (x : Int) - k && y < t.len then
        commonBack a b (s.stop - x) (t.stop - y) (min (s.len - x) (t.len - y))
      else 0
    let f := f.set k (x + more)
    let across := k - delta s t
    if delta s t % 2 = 0 && across.natAbs ≤ d && s.len ≤ x + more + front.get (-across) then
      .error (s.stop - (x + more), t.stop - (y + more))
    else goBackward front d ks f

/-- Tries paths of more and more edits. -/
def searchMiddle : Nat → Nat → Frontier → Frontier → Option (Nat × Nat)
  | 0, _, _, _ => none
  | n + 1, d, front, back =>
    match goForward a b s t back d (diagonals d) front with
    | .error p => some p
    | .ok front =>
      match goBackward a b s t front d (diagonals d) back with
      | .error p => some p
      | .ok back => searchMiddle n (d + 1) front back

def middle? : Option (Nat × Nat) :=
  let bound := (s.len + t.len + 1) / 2 + 1
  searchMiddle a b s t bound 0 (.start (bound + 1)) (.start (bound + 1))

end Middle

/-- The runs between two stretches, where `n` bounds how often they can be split. -/
def runsBetween (a b : Array String) : Nat → Span → Span → List Run
  | 0, _, _ => []
  | n + 1, s, t =>
    let front := commonPrefix a b s t
    let kept := if 0 < front then [⟨.keep, s.start, t.start, front⟩] else []
    let s : Span := ⟨s.start + front, s.stop⟩
    let t : Span := ⟨t.start + front, t.stop⟩
    let back := commonSuffix a b s t
    let s : Span := ⟨s.start, s.stop - back⟩
    let t : Span := ⟨t.start, t.stop - back⟩
    let inner : List Run :=
      if s.isEmpty && t.isEmpty then []
      else if t.isEmpty then [⟨.delete, s.start, t.start, s.len⟩]
      else if s.isEmpty then [⟨.insert, s.start, t.start, t.len⟩]
      else
        match middle? a b s t with
        | some (x, y) =>
          runsBetween a b n ⟨s.start, x⟩ ⟨t.start, y⟩ ++ runsBetween a b n ⟨x, s.stop⟩ ⟨y, t.stop⟩
        | none => [⟨.delete, s.start, t.start, s.len⟩, ⟨.insert, s.start, t.start, t.len⟩]
    kept ++ inner ++ (if 0 < back then [⟨.keep, s.stop, t.stop, back⟩] else [])

def rawScript (a b : Array String) : List Run :=
  runsBetween a b (a.size + b.size + 1) ⟨0, a.size⟩ ⟨0, b.size⟩

end Blueprint.Diff
