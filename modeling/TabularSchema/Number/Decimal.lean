import TabularSchema.Text.Digit

/-!
# Decimal numbers

A decimal is a sign, a coefficient and a power of ten, so that `1.5` and `1.50` differ although
their values agree; or an infinity; or not a number, quiet or signaling, with a diagnostic payload.
`Decimal.text` is the scientific notation of the General Decimal Arithmetic, and `Decimal.parse?`
reads its numeric strings, with digits of any script.
-/

namespace TabularSchema

inductive Decimal where
  | finite (negative : Bool) (coefficient : Nat) (exponent : Int)
  | infinity (negative : Bool)
  | nan (negative signaling : Bool) (payload : Nat)
deriving DecidableEq, Repr

namespace Decimal

/-- The number of decimal digits of a coefficient; zero has one. -/
def digitCount (n : Nat) : Nat := (Nat.toDigits 10 n).length

theorem lt_pow_digitCount (n : Nat) : n < Nat.pow 10 (digitCount n) :=
  (Nat.length_toDigits_le_iff (by decide) Nat.length_toDigits_pos).1 (Nat.le_refl _)

theorem pow_digitCount_le {n : Nat} (h : 0 < n) : Nat.pow 10 (digitCount n - 1) ≤ n := by
  by_cases hk : digitCount n - 1 = 0
  · rw [hk]; exact h
  · refine Nat.le_of_not_lt fun hlt => ?_
    have := (Nat.length_toDigits_le_iff (by decide) (Nat.pos_of_ne_zero hk)).2 hlt
    unfold digitCount at this hk
    omega

def toRat? : Decimal → Option Rat
  | .finite negative c e =>
    let magnitude : Rat := (c : Rat) * (10 : Rat) ^ e
    some (if negative then -magnitude else magnitude)
  | _ => none

def isNaN : Decimal → Bool
  | .nan _ _ _ => true
  | _ => false

def isZero : Decimal → Bool
  | .finite _ c _ => c == 0
  | _ => false

/-- The integer a decimal equals, if it is a finite whole number. A fraction with at least as many
places as digits is not whole unless it is zero. -/
def toInt? : Decimal → Option Int
  | .finite negative c e =>
    let signed (n : Nat) : Int := if negative then -(n : Int) else n
    if c = 0 then some 0
    else if 0 ≤ e then some (signed (c * Nat.pow 10 e.toNat))
    else if (digitCount c : Int) ≤ -e then none
    else if c % Nat.pow 10 (-e).toNat = 0 then some (signed (c / Nat.pow 10 (-e).toNat)) else none
  | _ => none

def signText (negative : Bool) : String := if negative then "-" else ""

/-- The scientific notation: positional while the exponent is not positive and the leading digit is
at most six places behind the point, otherwise with an exponent. -/
def text : Decimal → String
  | .infinity negative => signText negative ++ "Infinity"
  | .nan negative signaling payload =>
    signText negative ++ (if signaling then "sNaN" else "NaN") ++
      (if payload = 0 then "" else toString payload)
  | .finite negative c e =>
    let ds := Nat.toDigits 10 c
    let count : Int := ds.length
    let lead : Int := e + count - 1
    signText negative ++
      if e ≤ 0 ∧ -6 ≤ lead then
        if e = 0 then String.ofList ds
        else if 0 ≤ lead then
          let whole := (lead + 1).toNat
          String.ofList (ds.take whole ++ '.' :: ds.drop whole)
        else String.ofList ('0' :: '.' :: List.replicate (-lead - 1).toNat '0' ++ ds)
      else
        let mantissa :=
          match ds with
          | [] => []
          | [d] => [d]
          | d :: rest => d :: '.' :: rest
        String.ofList mantissa ++ "E" ++ (if lead < 0 then "-" else "+") ++ toString lead.natAbs

def readFinite? (negative : Bool) (cs : List Char) : Option Decimal :=
  (Text.readDigits? Text.digitValue? cs).map fun (c, e) => .finite negative c e

def readPayload? (negative signaling : Bool) (cs : List Char) : Option Decimal :=
  match Text.spanDigits Text.digitValue? cs with
  | (ds, []) => some (.nan negative signaling (Text.digitsValue ds))
  | _ => none

def readSpecial? (negative : Bool) (cs : List Char) : Option Decimal :=
  match cs.map Char.toLower with
  | ['i', 'n', 'f'] | ['i', 'n', 'f', 'i', 'n', 'i', 't', 'y'] => some (.infinity negative)
  | 'n' :: 'a' :: 'n' :: rest => readPayload? negative false rest
  | 's' :: 'n' :: 'a' :: 'n' :: rest => readPayload? negative true rest
  | _ => none

def parse? (s : String) : Option Decimal :=
  let (negative, cs) := Text.readSign s.toList
  (readSpecial? negative cs).or (readFinite? negative cs)

def ofInt (n : Int) : Decimal := .finite (decide (n < 0)) n.natAbs 0

end Decimal

end TabularSchema
