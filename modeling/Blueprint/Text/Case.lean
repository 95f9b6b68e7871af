import Blueprint.Text.CaseTable
import Blueprint.Text.CasedTable

/-!
# Letter case

Full case mappings: one character may become several, as `ß` becomes `SS`. `pascal` and `camel`
change the first character of a name and nothing else. `lowercase` maps a whole text; a capital
sigma that ends a word becomes `ς`.
-/

namespace Blueprint.Text

def mapChar (runs : List CaseRun) (expansions : List (Nat × List Nat)) (c : Char) : List Char :=
  match expansions.find? (·.1 == c.toNat) with
  | some (_, image) => image.map Char.ofNat
  | none =>
    match runs.find? (·.covers c.toNat) with
    | some run => [Char.ofNat (run.target c.toNat)]
    | none => [c]

def upperChar (c : Char) : List Char :=
  if c.toNat < 0x80 then [c.toUpper] else mapChar upperRuns upperExpansions c

def lowerChar (c : Char) : List Char :=
  if c.toNat < 0x80 then [c.toLower] else mapChar lowerRuns lowerExpansions c

/-- Maps the first character and keeps the others. -/
def mapFirst (f : Char → List Char) (name : String) : String :=
  match name.toList with
  | [] => ""
  | c :: rest => String.ofList (f c ++ rest)

def pascal (name : String) : String := mapFirst upperChar name

def camel (name : String) : String := mapFirst lowerChar name

def inRanges (ranges : List (Nat × Nat)) (c : Char) : Bool :=
  ranges.any fun r => r.1 ≤ c.toNat && c.toNat ≤ r.2

def isCased (c : Char) : Bool := inRanges casedRanges c

def isCaseIgnorable (c : Char) : Bool := inRanges caseIgnorableRanges c

/-- Whether the first character that counts for case is a cased one. -/
def meetsCased (s : List Char) : Bool :=
  match s.dropWhile isCaseIgnorable with
  | [] => false
  | c :: _ => isCased c

/-- Lower-cases the second list, where the first holds what stands before it, nearest first. -/
def lowerFrom : List Char → List Char → List Char
  | _, [] => []
  | before, 'Σ' :: rest =>
    (if meetsCased before && !meetsCased rest then 'ς' else 'σ') :: lowerFrom ('Σ' :: before) rest
  | before, c :: rest => lowerChar c ++ lowerFrom (c :: before) rest

def lowercase (s : String) : String := String.ofList (lowerFrom [] s.toList)

/-- Equality up to the case of ASCII letters. -/
def sameLetters (a b : String) : Bool := a.toList.map Char.toLower == b.toList.map Char.toLower

end Blueprint.Text
