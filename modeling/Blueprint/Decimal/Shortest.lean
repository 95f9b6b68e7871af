/-!
# Shortest decimals

A finite binary fraction `m · 2 ^ q` stands for every real that rounds to it. `shortest` finds the
decimal of fewest digits among them, and of those the nearest. The search works on the grids of
one digit, two digits and so on, in exact integer arithmetic: if a grid meets the interval, one of
the two grid points around the fraction lies in it.
-/

namespace Blueprint.Decimal

/-- A positive binary fraction `mantissa · 2 ^ exponent`. `narrow` says that the gap below is half
the gap above, which happens at a power of two. -/
structure Dyadic where
  mantissa : Nat
  exponent : Int
  narrow : Bool

/-- A decimal `digits · 10 ^ exponent`. -/
structure Scaled where
  digits : Nat
  exponent : Int
  deriving DecidableEq, Inhabited

/-- `base ^ e` as a fraction of natural numbers. -/
def powFraction (base : Nat) (e : Int) : Nat × Nat :=
  if 0 ≤ e then (Nat.pow base e.toNat, 1) else (1, Nat.pow base (-e).toNat)

/-- Compares `d · 10 ^ e` with `m · 2 ^ q`. -/
def compareWith (d : Nat) (e : Int) (m : Nat) (q : Int) : Ordering :=
  let (tn, td) := powFraction 10 e
  let (bn, bd) := powFraction 2 q
  compare (d * tn * bd) (m * bn * td)

namespace Dyadic

variable (x : Dyadic)

/-- Whether a decimal rounds to the fraction: the ends of the interval do when the mantissa is
even. The interval is measured in quarters of the mantissa's unit. -/
def contains (s : Scaled) : Bool :=
  let low := 4 * x.mantissa - (if x.narrow then 1 else 2)
  let high := 4 * x.mantissa + 2
  let even := x.mantissa % 2 == 0
  let above := match compareWith s.digits s.exponent low (x.exponent - 2) with
    | .gt => true
    | .eq => even
    | .lt => false
  let below := match compareWith s.digits s.exponent high (x.exponent - 2) with
    | .lt => true
    | .eq => even
    | .gt => false
  above && below

/-- The greatest `d` with `d · 10 ^ e` not above the fraction. -/
def floorAt (e : Int) : Nat :=
  let (tn, td) := powFraction 10 e
  let (bn, bd) := powFraction 2 x.exponent
  (x.mantissa * bn * td) / (bd * tn)

/-- The nearer of two neighbouring grid points; of two equally near ones the even one. -/
def nearer (e : Int) (d : Nat) : Scaled :=
  match compareWith (2 * d + 1) e (2 * x.mantissa) x.exponent with
  | .gt => ⟨d, e⟩
  | .lt => ⟨d + 1, e⟩
  | .eq => if d % 2 = 0 then ⟨d, e⟩ else ⟨d + 1, e⟩

def onGrid (e : Int) : Option Scaled :=
  let d := x.floorAt e
  match 0 < d && x.contains ⟨d, e⟩, x.contains ⟨d + 1, e⟩ with
  | true, true => some (x.nearer e d)
  | true, false => some ⟨d, e⟩
  | false, true => some ⟨d + 1, e⟩
  | false, false => none

/-- Tries the grids from the coarsest of `n` on, each ten times finer than the one before. -/
def shortestFrom : Nat → Int → Scaled
  | 0, e => ⟨x.floorAt e, e⟩
  | n + 1, e => (x.onGrid e).getD (shortestFrom n (e - 1))

/-- A grid coarser than the fraction itself. -/
def coarsest : Int :=
  let bits : Int := (Nat.log2 x.mantissa : Int) + 1 + x.exponent
  if 0 ≤ bits then bits * 30103 / 100000 + 1 else -((-bits) * 30102 / 100000) + 1

def shortest : Scaled := x.shortestFrom 20 x.coarsest

end Dyadic

/-- Moves the zeros at the end of the digits into the exponent. -/
def Scaled.dropZeros : Nat → Scaled → Scaled
  | 0, s => s
  | n + 1, s =>
    if s.digits % 10 = 0 && s.digits != 0 then dropZeros n ⟨s.digits / 10, s.exponent + 1⟩ else s

end Blueprint.Decimal
