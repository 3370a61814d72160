import TabularSchema.Number.Decimal

/-!
# Double precision numbers

A binary64 number is a signed significand times a power of two, an infinity, or not a number. The
finite ones are built by `Binary64.ofRatio` and `Binary64.ofDecimal`, which round to the nearest
number and break ties toward an even significand, so a built number has a significand below `2^53`
that is at least `2^52` unless the exponent is the least one.
-/

namespace TabularSchema

inductive Binary64 where
  | nan
  | infinity (negative : Bool)
  | finite (negative : Bool) (significand : Nat) (exponent : Int)
deriving DecidableEq, Repr

namespace Binary64

/-- The exponent of the smallest positive number. -/
def minExponent : Int := -1074

/-- The exponent of the largest numbers. -/
def maxExponent : Int := 971

def precision : Nat := 53

def zero : Binary64 := .finite false 0 minExponent

def toRat? : Binary64 → Option Rat
  | .finite negative m e =>
    let magnitude : Rat := (m : Rat) * (2 : Rat) ^ e
    some (if negative then -magnitude else magnitude)
  | _ => none

/-- Halves a number as often as it is even, at most `fuel` times; counts the halvings. -/
def oddPart : Nat → Nat → Nat → Nat × Nat
  | 0, n, k => (n, k)
  | fuel + 1, n, k => if n % 2 = 0 ∧ n ≠ 0 then oddPart fuel (n / 2) (k + 1) else (n, k)

/-- The decimal that equals a number exactly, with as few places as it can have. -/
def toDecimal : Binary64 → Decimal
  | .nan => .nan false false 0
  | .infinity negative => .infinity negative
  | .finite negative m e =>
    if m = 0 then .finite negative 0 0
    else if 0 ≤ e then .finite negative (m * Nat.pow 2 e.toNat) 0
    else
      let (n, k) := oddPart (-e).toNat m 0
      let places := (-e).toNat - k
      .finite negative (n * Nat.pow 5 places) (-(places : Int))

/-- The quotient rounded to the nearest natural number, a tie to the even one. -/
def roundQuotient (num den : Nat) : Nat :=
  let q := num / den
  let r := num % den
  if den < 2 * r ∨ (2 * r = den ∧ q % 2 = 1) then q + 1 else q

/-- Multiplies the numerator or the denominator so that the ratio is divided by `2^e`. -/
def scaleBy (e : Int) (num den : Nat) : Nat × Nat :=
  if 0 ≤ e then (num, den * Nat.pow 2 e.toNat) else (num * Nat.pow 2 (-e).toNat, den)

/-- The largest power of two not above a positive ratio, as an exponent. -/
def floorLog2 (num den : Nat) : Int :=
  let e : Int := (num.log2 : Int) - (den.log2 : Int)
  let (n, d) := scaleBy e num den
  if d ≤ n then e else e - 1

/-- The number nearest to a nonnegative ratio, with a given sign. A ratio beyond the largest finite
number becomes an infinity. -/
def ofRatio (negative : Bool) (num den : Nat) : Binary64 :=
  if num = 0 then .finite negative 0 minExponent
  else
    let e := max (floorLog2 num den - 52) minExponent
    let (n, d) := scaleBy e num den
    let q := roundQuotient n d
    let (m, e) := if q = Nat.pow 2 precision then (Nat.pow 2 52, e + 1) else (q, e)
    if maxExponent < e then .infinity negative else .finite negative m e

def ofRat (q : Rat) : Binary64 := ofRatio (decide (q < 0)) q.num.natAbs q.den

def ofInt (n : Int) : Binary64 :=
  ofRatio (decide (n < 0)) n.natAbs 1

/-- The number nearest to `coefficient * 10^exponent`. Decimals far outside the range are settled by
their order of magnitude alone. -/
def ofDecimal (negative : Bool) (coefficient : Nat) (exponent : Int) : Binary64 :=
  let magnitude : Int := exponent + (Decimal.digitCount coefficient : Int)
  if coefficient = 0 ∨ magnitude < -400 then .finite negative 0 minExponent
  else if 400 < magnitude then .infinity negative
  else if 0 ≤ exponent then ofRatio negative (coefficient * Nat.pow 10 exponent.toNat) 1
  else ofRatio negative coefficient (Nat.pow 10 (-exponent).toNat)

def isZero : Binary64 → Bool
  | .finite _ m _ => m == 0
  | _ => false

def toInt? : Binary64 → Option Int
  | .finite negative m e =>
    let signed (n : Nat) : Int := if negative then -(n : Int) else n
    if 0 ≤ e then some (signed (m * Nat.pow 2 e.toNat))
    else if m % Nat.pow 2 (-e).toNat = 0 then some (signed (m / Nat.pow 2 (-e).toNat)) else none
  | _ => none

end Binary64

end TabularSchema
