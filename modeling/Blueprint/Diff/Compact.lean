import Blueprint.Diff.Script

/-!
# Compact scripts

Insertions are moved up past the kept lines that they repeat, and down again, so that they meet and
merge with others; deletions merge with those beside them. Between two kept runs of the final
script stands at most one deletion, followed by at most one insertion.
-/

namespace Blueprint.Diff

namespace Run

def growLeft (r : Run) (n : Nat) : Run := ⟨r.tag, r.old - n, r.new - n, r.len + n⟩

def growRight (r : Run) (n : Nat) : Run := { r with len := r.len + n }

def shiftLeft (r : Run) (n : Nat) : Run := { r with old := r.old - n, new := r.new - n }

def shiftRight (r : Run) (n : Nat) : Run := { r with old := r.old + n, new := r.new + n }

def shrinkLeft (r : Run) (n : Nat) : Run := { r with len := r.len - n }

def shrinkRight (r : Run) (n : Nat) : Run := ⟨r.tag, r.old + n, r.new + n, r.len - n⟩

end Run

/-- A script seen from one of its runs: the runs before it, nearest first, and after it. -/
structure Focus where
  before : List Run
  here : Run
  after : List Run

namespace Focus

variable (a b : Array String)

/-- How many lines at the end of a kept run an insertion repeats at its own end. A deletion stands
at one place of the new side and repeats none. -/
def repeatsAbove (r kept : Run) : Nat := commonSuffix a b kept.oldSpan r.newSpan

def repeatsBelow (r kept : Run) : Nat := commonPrefix a b kept.oldSpan r.newSpan

def dropEmpty (r : Run) (rest : List Run) : List Run := if r.len = 0 then rest else r :: rest

/-- Moves the focused run up as far as it goes; `n` bounds the lines and runs above it. -/
def moveUp : Nat → Focus → Focus
  | 0, f => f
  | n + 1, f =>
    match f.before with
    | [] => f
    | up :: before =>
      match up.tag with
      | .keep =>
        let m := repeatsAbove a b f.here up
        if 0 < m then
          let after := match f.after with
            | ⟨.keep, old, new, len⟩ :: rest => Run.growLeft ⟨.keep, old, new, len⟩ m :: rest
            | rest => ⟨.keep, up.oldSpan.stop - m, f.here.newSpan.stop - m, m⟩ :: rest
          moveUp n ⟨dropEmpty (up.shrinkLeft m) before, f.here.shiftLeft m, after⟩
        else if up.len = 0 then moveUp n { f with before := before }
        else f
      | tag =>
        if tag = f.here.tag then moveUp n ⟨before, up.growRight f.here.len, f.after⟩
        else moveUp n ⟨before, f.here, up :: f.after⟩

/-- Moves the focused run down as far as it goes; `n` bounds the lines and runs below it. -/
def moveDown : Nat → Focus → Focus
  | 0, f => f
  | n + 1, f =>
    match f.after with
    | [] => f
    | down :: after =>
      match down.tag with
      | .keep =>
        let m := repeatsBelow a b f.here down
        if 0 < m then
          let before := match f.before with
            | ⟨.keep, old, new, len⟩ :: rest => Run.growRight ⟨.keep, old, new, len⟩ m :: rest
            | rest => ⟨.keep, down.oldSpan.start, f.here.newSpan.start, m⟩ :: rest
          moveDown n ⟨before, f.here.shiftRight m, dropEmpty (down.shrinkRight m) after⟩
        else if down.len = 0 then moveDown n { f with after := after }
        else f
      | tag =>
        if tag = f.here.tag then moveDown n ⟨f.before, f.here.growRight down.len, after⟩
        else moveDown n ⟨down :: f.before, f.here, after⟩

end Focus

def weight (runs : List Run) : Nat := runs.foldl (fun n r => n + r.len + 1) 0

/-- Moves every run with the tag, from the first on; `n` bounds the runs to come. -/
def settle (a b : Array String) (tag : Tag) : Nat → List Run → List Run → List Run
  | 0, before, after => before.reverse ++ after
  | _, before, [] => before.reverse
  | n + 1, before, r :: after =>
    if r.tag = tag then
      let f : Focus := ⟨before, r, after⟩
      let bound := weight before + weight (r :: after) + 1
      let f := Focus.moveDown a b (2 * bound) (Focus.moveUp a b (2 * bound) f)
      settle a b tag n (f.here :: f.before) f.after
    else settle a b tag n (r :: before) after

/-- Merges the runs between kept ones, deletions in front. -/
structure Merge where
  kept : Option Run
  deleted : Option Run
  inserted : Option Run
  done : List Run

namespace Merge

def start : Merge := ⟨none, none, none, []⟩

def extend (old : Option Run) (r : Run) : Option Run :=
  match old with
  | some o => some (o.growRight r.len)
  | none => some r

def flushKept (m : Merge) : Merge := { m with kept := none, done := m.kept.toList ++ m.done }

def flushEdits (m : Merge) : Merge :=
  { m with
    deleted := none
    inserted := none
    done := m.inserted.toList ++ m.deleted.toList ++ m.done }

def add (m : Merge) (r : Run) : Merge :=
  match r.tag with
  | .keep => let m := m.flushEdits; { m with kept := extend m.kept r }
  | .delete => let m := m.flushKept; { m with deleted := extend m.deleted r }
  | .insert => let m := m.flushKept; { m with inserted := extend m.inserted r }

def finish (m : Merge) : List Run := (m.flushKept.flushEdits).done.reverse

end Merge

def script (a b : Array String) : List Run :=
  let raw := rawScript a b
  let bound (runs : List Run) : Nat := weight runs + a.size + b.size + 1
  let moved := settle a b .delete (bound raw) [] raw
  let moved := settle a b .insert (bound moved) [] moved
  (moved.foldl Merge.add .start).finish

/-! ### Changes -/

/-- One line of a diff with its place on the sides where it stands. -/
structure LineChange where
  tag : Tag
  old : Option Nat
  new : Option Nat
  text : String
  deriving DecidableEq, Inhabited

def Run.changes (a b : Array String) (r : Run) : List LineChange :=
  (List.range r.len).map fun i =>
    match r.tag with
    | .keep => ⟨.keep, some (r.old + i), some (r.new + i), a.getD (r.old + i) ""⟩
    | .delete => ⟨.delete, some (r.old + i), none, a.getD (r.old + i) ""⟩
    | .insert => ⟨.insert, none, some (r.new + i), b.getD (r.new + i) ""⟩

/-- Splits a text after every line feed, carriage return or pair of both, and keeps them. -/
def tokensFrom : List Char → List Char → List (List Char)
  | acc, [] => if acc.isEmpty then [] else [acc.reverse]
  | acc, '\r' :: '\n' :: rest => ('\n' :: '\r' :: acc).reverse :: tokensFrom [] rest
  | acc, '\r' :: rest => ('\r' :: acc).reverse :: tokensFrom [] rest
  | acc, '\n' :: rest => ('\n' :: acc).reverse :: tokensFrom [] rest
  | acc, c :: rest => tokensFrom (c :: acc) rest

def tokens (s : String) : Array String := ((tokensFrom [] s.toList).map String.ofList).toArray

def changes (old new : String) : List LineChange :=
  let a := tokens old
  let b := tokens new
  (script a b).flatMap (Run.changes a b)

end Blueprint.Diff
