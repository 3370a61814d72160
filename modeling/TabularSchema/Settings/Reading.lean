import TabularSchema.Settings.Issue
import TabularSchema.Text.Blank
import TabularSchema.Text.Digit
import TabularSchema.Text.Encoding
import TabularSchema.Value

/-!
# Reading settings

A number may be given as a number of any kind or as text that reads as one. Text is trimmed, and
single underscores may stand between its characters. An integer may be written with a plus sign,
zeros and underscores before it, and with a fraction of zeros; a minus sign stands right before the
first digit of weight. A text may be given as bytes.
-/

namespace TabularSchema

/-- How a number is held against the bounds of a setting. -/
class BoundCheck where
  above (bound : Int) (x : Binary64) : Bool
  below (bound : Int) (x : Binary64) : Bool

namespace BoundCheck

/-- What is not within a bound is refused, a NaN included. -/
instance standard : BoundCheck where
  above bound x := !x.toDecimal.le (.ofInt bound)
  below bound x := !(Decimal.ofInt bound).le x.toDecimal

end BoundCheck

namespace Settings

def textOf? (onBadBytes : Rule) : Value → Except Rule (Option String)
  | .text s => .ok (some s)
  | .bytes .fixed data =>
    match Text.ofUtf8? data with
    | some s => .ok (some s)
    | none => .error onBadBytes
  | _ => .ok none

/-- Reads a double; infinities and NaN have names in letters of either case. -/
def double? (cs : List Char) : Option Binary64 :=
  let (negative, cs) := Text.readSign cs
  let name := String.ofList (cs.map Char.toLower)
  if name = "inf" ∨ name = "infinity" then some (.infinity negative)
  else if name = "nan" then some .nan
  else (Text.readDigits? Text.asciiDigit? cs).map fun (c, e) => .ofDecimal negative c e

/-- Whether underscores stand alone and at neither end. -/
def wellSpaced : List Char → Bool
  | [] => true
  | ['_'] => false
  | '_' :: '_' :: _ => false
  | _ :: cs => wellSpaced cs

/-- A text without its underscores, if it has some and they stand alone and at neither end. -/
def stripUnderscores? (cs : List Char) : Option (List Char) :=
  if '_' ∈ cs ∧ cs.head? ≠ some '_' ∧ wellSpaced cs then some (cs.filter (· ≠ '_')) else none

def doubleOfText (s : String) : Except Rule Binary64 :=
  match double? (Text.trimBoth Text.isWhiteSpace s.toList) with
  | some x => .ok x
  | none =>
    match (stripUnderscores? s.toList).bind double? with
    | some x => .ok x
    | none => .error .readsAsNumber

/-- The double nearest to a value that is a number. An integer beyond all doubles and a signaling
NaN have none. -/
def doubleOfNumber : Value → Except Rule Binary64
  | .bool b => .ok (.ofInt (if b then 1 else 0))
  | .int _ n =>
    match Binary64.ofInt n with
    | .infinity _ => .error .isNumber
    | x => .ok x
  | .float _ x => .ok x
  | .decimal (.finite negative c e) => .ok (.ofDecimal negative c e)
  | .decimal (.infinity negative) => .ok (.infinity negative)
  | .decimal (.nan _ false _) => .ok .nan
  | _ => .error .isNumber

def double (v : Value) : Except Rule Binary64 := do
  match ← textOf? .readsAsNumber v with
  | some s => doubleOfText s
  | none => doubleOfNumber v

def ratio [BoundCheck] (v : Value) : Except Rule Binary64 := do
  let x ← double v
  if BoundCheck.above 1 x then throw .atMostOne
  else if BoundCheck.below 0 x then throw .atLeastZero
  else return x

/-- Drops the zeros and underscores before the first digit of weight or a minus sign; the last of
them stays if nothing else is left before a point or at the end. -/
def stripZeros? : List Char → Option (List Char)
  | [] => none
  | c :: cs =>
    if c = '0' then
      match cs.dropWhile (fun d => d = '0' ∨ d = '_') with
      | [] => some ((c :: cs).drop cs.length)
      | d :: rest =>
        if d = '.' then some ((c :: cs).drop (cs.length - rest.length - 1))
        else if d.isDigit ∨ d = '-' then some (d :: rest)
        else none
    else if c.isDigit ∨ c = '-' then some (c :: cs)
    else none

def stripZeroFraction (cs : List Char) : List Char :=
  match cs.dropWhile (· ≠ '.') with
  | _ :: z :: zs =>
    if (z :: zs).all (· = '0') then cs.takeWhile (· ≠ '.') else cs
  | _ => cs

/-- Drops a plus sign, which cannot be followed by a minus sign. -/
def stripPlus? : List Char → Option (List Char)
  | '+' :: '-' :: _ => none
  | '+' :: cs => some cs
  | cs => some cs

/-- The plain form of an integer that is written with more than it needs. -/
def plainInteger? (cs : List Char) : Option (List Char) := do
  let cs ← stripPlus? (Text.trimBoth Text.isWhiteSpace cs)
  let cs := stripZeroFraction (← stripZeros? cs)
  return (stripUnderscores? cs).getD cs

/-- Reads digits without a zero before others. -/
def natural? (cs : List Char) : Option Nat :=
  match cs with
  | [] => none
  | '0' :: _ :: _ => none
  | cs => if cs.all Char.isDigit then some (Text.asciiNumber cs) else none

def integer? : List Char → Option Int
  | '-' :: cs => (natural? cs).map fun n => -(n : Int)
  | cs => (natural? cs).map fun n => (n : Int)

/-- The most characters an integer may be written with, its sign included. -/
def maxLength : Nat := 4300

/-- Whether a text starts with an integer in plain form that is too long to be read. -/
def startsTooLong (cs : List Char) : Bool :=
  let ds :=
    match cs with
    | '-' :: cs => cs
    | cs => cs
  let count := (ds.takeWhile Char.isDigit).length + (cs.length - ds.length)
  ds.head? != some '0' && decide (maxLength < count)

/-- Reads a text as an integer, as it stands or in plain form. -/
def integerOfText (s : String) : Except Rule Int :=
  let cs := s.toList
  if startsTooLong cs then .error .readableSize
  else
    match (integer? cs).or ((plainInteger? cs).bind fun cs =>
        if startsTooLong cs then none else integer? cs) with
    | some n => .ok n
    | none => .error .readsAsInteger

def doubleBound : Nat := Nat.pow 2 63

def integerOfDouble (x : Binary64) : Except Rule Int :=
  match x with
  | .finite _ _ _ =>
    match x.toInt? with
    | some n => if n.natAbs < doubleBound then .ok n else .error .readableSize
    | none => .error .isWhole
  | _ => .error .isFinite

def integerOfDecimal (d : Decimal) : Except Rule Int :=
  match d with
  | .finite _ _ _ =>
    match d.toInt? with
    | some n => .ok n
    | none => .error .isWhole
  | _ => .error .isFinite

def integer (v : Value) : Except Rule Int := do
  match ← textOf? .readsAsInteger v with
  | some s => integerOfText s
  | none =>
    match v with
    | .bool b => return if b then 1 else 0
    | .int _ n => return n
    | .float _ x => integerOfDouble x
    | .decimal d => integerOfDecimal d
    | _ => throw .isInteger

def positive (v : Value) : Except Rule Int := do
  let n ← integer v
  if 0 < n then return n else throw .isPositive

def text : Value → Except Rule String
  | .text s => .ok s
  | .bytes (.view _) _ => .error .isText
  | .bytes _ data =>
    match Text.ofUtf8? data with
    | some s => .ok s
    | none => .error .readsAsText
  | _ => .error .isText

def optionalText : Value → Except Rule (Option String)
  | .null => .ok none
  | v => (text v).map some

end Settings

end TabularSchema
