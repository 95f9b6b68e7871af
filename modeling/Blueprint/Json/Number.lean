import Blueprint.Decimal.Shortest

/-!
# JSON numbers

A number is a natural number below `2 ^ 64`, a negative integer not below `-2 ^ 63`, or a double,
which is kept as its sixty-four bits. Doubles are written with the fewest digits that read back:
positionally from `1e-5` up to `1e16`, with an exponent elsewhere.
-/

namespace Blueprint.Json

inductive Number where
  | nat (n : UInt64)
  | negative (n : Int64)
  | double (bits : UInt64)
  deriving DecidableEq, Inhabited

namespace Number

def ofFloat (x : Float) : Number := .double x.toBits

/-! ### The fields of a double -/

/-- `2 ^ 52`, as the fraction has fifty-two bits. -/
def fractionSize : Nat := 0x10000000000000

/-- `2 ^ 11`, as the exponent has eleven bits. -/
def exponentSize : Nat := 0x800

def fraction (bits : UInt64) : Nat := bits.toNat % fractionSize

def biasedExponent (bits : UInt64) : Nat := bits.toNat / fractionSize % exponentSize

def isNegative (bits : UInt64) : Bool := UInt64.size / 2 ≤ bits.toNat

/-- Whether the double is infinite or no number. -/
def isSpecial (bits : UInt64) : Bool := biasedExponent bits == exponentSize - 1

/-- The double is `(-1) ^ sign · mantissa · 2 ^ exponent`. -/
def dyadic (bits : UInt64) : Bool × Decimal.Dyadic :=
  let f := fraction bits
  let e := biasedExponent bits
  (isNegative bits,
    if e = 0 then ⟨f, -1074, false⟩
    else ⟨fractionSize + f, (e : Int) - 1075, f == 0 && 1 < e⟩)

/-- Writes `digits · 10 ^ exponent`, where the digits do not end in zero. -/
def positional (digits : List Char) (exponent : Int) : List Char :=
  let point := (digits.length : Int) + exponent
  if 0 ≤ exponent then digits ++ List.replicate exponent.toNat '0' ++ ['.', '0']
  else if 0 < point then digits.take point.toNat ++ ['.'] ++ digits.drop point.toNat
  else ['0', '.'] ++ List.replicate (-point).toNat '0' ++ digits

def scientific (digits : List Char) (exponent : Int) : List Char :=
  let mantissa := match digits with
    | [] => []
    | [d] => [d]
    | d :: rest => d :: '.' :: rest
  let sign := if 0 ≤ exponent then '+' else '-'
  mantissa ++ 'e' :: sign :: Nat.toDigits 10 exponent.natAbs

def doubleText (bits : UInt64) : List Char :=
  let (sign, x) := dyadic bits
  let body :=
    if x.mantissa = 0 then ['0', '.', '0']
    else
      let s := x.shortest.dropZeros 20
      let digits := Nat.toDigits 10 s.digits
      let leading := (digits.length : Int) + s.exponent - 1
      if -5 ≤ leading && leading ≤ 15 then positional digits s.exponent
      else scientific digits leading
  if sign then '-' :: body else body

def chars : Number → List Char
  | .nat n => Nat.toDigits 10 n.toNat
  | .negative n => '-' :: Nat.toDigits 10 n.toInt.natAbs
  | .double bits => doubleText bits

def text (n : Number) : String := String.ofList n.chars

end Number

end Blueprint.Json
