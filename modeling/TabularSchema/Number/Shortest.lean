import TabularSchema.Number.Binary64

/-!
# Shortest decimal text of a double

`Shortest.digits` finds the fewest decimal digits that read back as a given finite number, and of
those the nearest to it. `Layout` says where the positional form ends and how an exponent is
written; `Binary64.text` writes a number in the layout `Layout.standard`.
-/

namespace TabularSchema

namespace Shortest

/-- A decimal `coefficient * 10^exponent`. -/
structure Digits where
  coefficient : Nat
  exponent : Int
deriving DecidableEq, Repr

/-- The reals that round to a positive number `m * 2^e`: the bounds, and whether they belong. -/
def interval (m : Nat) (e : Int) : Rat × Rat × Bool :=
  let ulp : Rat := (2 : Rat) ^ e
  let below : Rat := if m = Nat.pow 2 52 ∧ Binary64.minExponent < e then ulp / 4 else ulp / 2
  ((m : Rat) * ulp - below, (m : Rat) * ulp + ulp / 2, m % 2 = 0)

def readsBack (m : Nat) (e : Int) (q : Rat) : Bool :=
  let (lo, hi, closed) := interval m e
  if closed then decide (lo ≤ q ∧ q ≤ hi) else decide (lo < q ∧ q < hi)

def floorLog10 (m : Nat) (e : Int) : Int :=
  let v : Rat := (m : Rat) * (2 : Rat) ^ e
  let guess : Int := ((m.log2 : Int) + e) * 30103 / 100000
  (([2, 1, 0, -1] : List Int).map (guess + ·)).find? (fun p => decide ((10 : Rat) ^ p ≤ v))
    |>.getD (guess - 2)

/-- The better of the two neighbours of `m * 2^e` on the grid of multiples of `10^p`, if one of them
reads back. The nearer wins, and a tie goes to the even coefficient. -/
def onGrid? (m : Nat) (e p : Int) : Option Digits :=
  let v : Rat := (m : Rat) * (2 : Rat) ^ e
  let unit : Rat := (10 : Rat) ^ p
  let lo := (v / unit).floor.toNat
  let hi := lo + 1
  match readsBack m e (lo * unit), readsBack m e (hi * unit) with
  | true, true =>
    let fromLo := v - lo * unit
    let fromHi := hi * unit - v
    if fromLo < fromHi ∨ (fromLo = fromHi ∧ lo % 2 = 0) then some ⟨lo, p⟩ else some ⟨hi, p⟩
  | true, false => some ⟨lo, p⟩
  | false, true => some ⟨hi, p⟩
  | false, false => none

/-- Tries ever finer grids, from `count` digits on, at most `fuel` times. -/
def search (m : Nat) (e top : Int) : Nat → Nat → Option Digits
  | 0, _ => none
  | fuel + 1, count =>
    match onGrid? m e (top - count + 1) with
    | some d => some d
    | none => search m e top fuel (count + 1)

def trim : Nat → Digits → Digits
  | 0, d => d
  | fuel + 1, d =>
    if d.coefficient % 10 = 0 ∧ d.coefficient ≠ 0 then
      trim fuel ⟨d.coefficient / 10, d.exponent + 1⟩
    else d

/-- The shortest decimal that reads back as the positive number `m * 2^e`; seventeen digits always
do. -/
def digits (m : Nat) (e : Int) : Digits :=
  trim 20 ((search m e (floorLog10 m e) 17 1).getD ⟨m, 0⟩)

end Shortest

structure Layout where
  /-- The least exponent of the leading digit that is written positionally. -/
  positionalFrom : Int
  /-- The first exponent of the leading digit that is no longer written positionally. -/
  positionalBelow : Int
  /-- The least number of digits of a written exponent. -/
  exponentWidth : Nat
  nan : String
  infinity : String
deriving Repr

namespace Layout

/-- Positional from `0.0001` up to sixteen integer digits, always with a point; exponents have a
sign and at least two digits. -/
def standard : Layout := ⟨-4, 16, 2, "nan", "inf"⟩

def exponentText (l : Layout) (e : Int) : String :=
  let ds := toString e.natAbs
  let pad := String.ofList (List.replicate (l.exponentWidth - ds.length) '0')
  (if e < 0 then "-" else "+") ++ pad ++ ds

def write (l : Layout) (d : Shortest.Digits) : String :=
  let ds := Nat.toDigits 10 d.coefficient
  let count : Int := ds.length
  let lead : Int := d.exponent + count - 1
  let zeros (n : Int) : List Char := List.replicate n.toNat '0'
  if l.positionalFrom ≤ lead ∧ lead < l.positionalBelow then
    if 0 ≤ d.exponent then String.ofList (ds ++ zeros d.exponent) ++ ".0"
    else if 0 ≤ lead then
      let whole := (lead + 1).toNat
      String.ofList (ds.take whole ++ '.' :: ds.drop whole)
    else String.ofList ('0' :: '.' :: zeros (-lead - 1) ++ ds)
  else
    let mantissa :=
      match ds with
      | [c] => [c]
      | c :: cs => c :: '.' :: cs
      | [] => []
    String.ofList mantissa ++ "e" ++ l.exponentText lead

end Layout

namespace Binary64

def text : Binary64 → String
  | .nan => Layout.standard.nan
  | .infinity negative => (if negative then "-" else "") ++ Layout.standard.infinity
  | .finite negative m e =>
    let sign := if negative then "-" else ""
    if m = 0 then sign ++ "0.0"
    else sign ++ Layout.standard.write (Shortest.digits m e)

end Binary64

end TabularSchema
