import TabularSchema.Number.Decimal
import TabularSchema.Text.Blank

/-!
# Trapping decimal contexts

A context limits the digits of a coefficient and the exponent of the leading digit. A number that
does not fit raises signals, and every signal is trapped, so a number that passes a context is
unchanged. `Context.signals` lists what a number raises, in the order in which signals are reported.
A quotient that would need more digits than a context has is not computed.
-/

namespace TabularSchema

inductive Signal where
  | invalidOperation
  /-- An invalid operation: a text is no number. -/
  | conversionSyntax
  /-- An invalid operation: a whole quotient has too many digits. -/
  | divisionImpossible
  | overflow
  | underflow
  | inexact
  | rounded
  | clamped
deriving DecidableEq, Repr

namespace Signal

def name : Signal → String
  | .invalidOperation => "InvalidOperation"
  | .conversionSyntax => "ConversionSyntax"
  | .divisionImpossible => "DivisionImpossible"
  | .overflow => "Overflow"
  | .underflow => "Underflow"
  | .inexact => "Inexact"
  | .rounded => "Rounded"
  | .clamped => "Clamped"

/-- The signal a condition is trapped as: kinds of invalid operations are invalid operations. -/
def trappedAs : Signal → Signal
  | .conversionSyntax | .divisionImpossible => .invalidOperation
  | s => s

def listText (signals : List Signal) : String :=
  "[" ++ ", ".intercalate (signals.map fun s => "<class 'decimal." ++ s.name ++ "'>") ++ "]"

end Signal

namespace Decimal

/-- Limits of precision and of the exponent of the leading digit. -/
structure Context where
  precision : Nat
  minLead : Int
  maxLead : Int
deriving Repr

namespace Context

/-- The limits of a stored table number: 38 digits, leading digit from `10^-128` to `10^126`. -/
def tableNumber : Context := ⟨38, -128, 126⟩

def arithmetic : Context := ⟨28, -999999, 999999⟩

def widest : Context :=
  ⟨999999999999999999, -999999999999999999, 999999999999999999⟩

/-- The exponent of the last digit of the smallest number. -/
def minExponent (k : Context) : Int := k.minLead - (k.precision : Int) + 1

/-- Whether dropping the last `n` digits of a coefficient loses a nonzero digit. -/
def losesDigits (c n : Nat) : Bool :=
  if digitCount c ≤ n then c != 0 else c % Nat.pow 10 n != 0

/-- The coefficient without its last `n` digits, rounded to nearest with ties to even. -/
def dropDigits (c n : Nat) : Nat :=
  if digitCount c < n then 0
  else
    let unit := Nat.pow 10 n
    let q := c / unit
    let r := c % unit
    if unit < 2 * r ∨ (2 * r = unit ∧ q % 2 = 1) then q + 1 else q

def precisionSignals (k : Context) (c : Nat) : List Signal :=
  let excess := digitCount c - k.precision
  if excess = 0 then []
  else if losesDigits c excess then [.inexact, .rounded] else [.rounded]

def carries (k : Context) (c : Nat) : Bool :=
  decide (k.precision < digitCount c) &&
    dropDigits c (digitCount c - k.precision) == Nat.pow 10 k.precision

def tinySignals (k : Context) (c : Nat) (e : Int) : List Signal :=
  let excess := (k.minExponent - e).toNat
  if excess = 0 then []
  else if losesDigits c excess then
    [.underflow, .inexact, .rounded] ++ (if dropDigits c excess = 0 then [.clamped] else [])
  else [.rounded]

/-- The signals a number raises when it is brought into a context. -/
def signals (k : Context) : Decimal → List Signal
  | .finite _ c e =>
    let lead : Int := e + (digitCount c : Int) - 1
    if c = 0 then if k.maxLead < e ∨ e < k.minExponent then [.clamped] else []
    else if k.maxLead < lead ∨ (k.maxLead = lead ∧ k.carries c) then
      [.overflow, .inexact, .rounded]
    else if lead < k.minLead then k.tinySignals c e
    else k.precisionSignals c
  | _ => []

def fit (k : Context) (d : Decimal) : Except (List Signal) Decimal :=
  match k.signals d with
  | [] => .ok d
  | s :: ss => .error (s :: ss)

/-- Reads a text into a context. A text that is no number becomes a quiet NaN, and so does a NaN
whose payload exceeds the precision. -/
def read (k : Context) (s : String) : Except (List Signal) Decimal :=
  match parse? s with
  | none => .ok (.nan false false 0)
  | some (.nan negative signaling payload) =>
    if k.precision < digitCount payload then .ok (.nan false false 0)
    else .ok (.nan negative signaling payload)
  | some d => k.fit d

/-- The whole part of the quotient of `c * 10^e` by a positive integer. It is settled by orders of
magnitude where the number is less than one or the quotient has too many digits by far. -/
def wholeQuotient (k : Context) (c : Nat) (e : Int) (divisor : Nat) : Except (List Signal) Nat :=
  let place : Int := e + (digitCount c : Int)
  if c = 0 ∨ place ≤ 0 then .ok 0
  else if ((k.precision + digitCount divisor : Nat) : Int) < place then
    .error [.divisionImpossible]
  else
    let whole := if 0 ≤ e then c * Nat.pow 10 e.toNat else c / Nat.pow 10 (-e).toNat
    let n := whole / divisor
    if k.precision < digitCount n then .error [.divisionImpossible] else .ok n

end Context

/-- Reads a whole text exactly. Blanks around it and underscores in it do not count. -/
def ofText (s : String) : Except (List Signal) Decimal :=
  let cs := (Text.trimBoth Text.isBlank s.toList).filter (· ≠ '_')
  match parse? (String.ofList cs) with
  | none => .error [.conversionSyntax]
  | some d =>
    match Context.widest.fit d with
    | .ok d => .ok d
    | .error _ => .error [.invalidOperation]

end Decimal

end TabularSchema
