import TabularSchema.Number.Decimal.Context
import TabularSchema.Table.Item
import TabularSchema.Value.Elements
import TabularSchema.Value.Text

/-!
# Wire attributes

On the wire a table item is a mapping of attributes. An attribute is a mapping whose first key names
its type, in letters of either case, and whose first value is what the type describes. Numbers are
texts that are read exactly; one that does not fit the limits of stored numbers is refused.
-/

namespace TabularSchema

namespace Attribute

inductive Tag where
  | null
  | bool
  | text
  | number
  | bytes
  | textSet
  | numberSet
  | bytesSet
  | list
  | map
deriving DecidableEq, Repr

def tags : List (String × Tag) :=
  [("null", .null), ("bool", .bool), ("s", .text), ("n", .number), ("b", .bytes),
    ("ss", .textSet), ("ns", .numberSet), ("bs", .bytesSet), ("l", .list), ("m", .map)]

def tag? (name : String) : Option Tag := tags.lookup name.toLower

/-- The type that the first key of an attribute names. -/
def tagOf (key : Value) : Except Failure Tag := do
  let name ← key.fieldName
  match tag? name with
  | some tag => return tag
  | none => throw (.unknownAttribute name)

def notAttribute (v : Value) : Failure :=
  if v.isTruthy then .noAttribute v.qualifiedName "keys" else .emptyAttribute

def fit (d : Decimal) : Except Failure Decimal :=
  match Decimal.Context.tableNumber.fit d with
  | .ok d => .ok d
  | .error signals => .error (.trapped signals)

/-- Reads the text of a stored number. A text that is no number becomes a NaN. -/
def readNumber (s : String) : Except Failure Decimal :=
  match Decimal.Context.tableNumber.read s with
  | .ok d => .ok d
  | .error signals => .error (.trapped signals)

def integer? : Value → Option Int
  | .bool b => some (if b then 1 else 0)
  | .int _ n => some n
  | _ => none

/-- An integer that has to be a machine integer of 64 bits, of which the kind is named. -/
def machineInteger (machineKind : String) (n : Int) : Except Failure Int :=
  if -9223372036854775808 ≤ n ∧ n < 9223372036854775808 then .ok n
  else .error (.tooWide machineKind)

def badDigits : Failure := .badTriple "coefficient must be a tuple of digits"

def digitOf (v : Value) : Except Failure Nat :=
  match integer? v with
  | none => .error badDigits
  | some n => do
    let n ← machineInteger "long" n
    if 0 ≤ n ∧ n ≤ 9 then return n.toNat else throw badDigits

def digitsOf : Value → Except Failure (List Nat)
  | .seq .list items | .seq .tuple items => items.mapM digitOf
  | _ => .error badDigits

/-- Whether the number is negative, by its sign of zero or one. -/
def signOf (v : Value) : Except Failure Bool :=
  let badSign := Failure.badTriple "sign must be an integer with the value 0 or 1"
  match integer? v with
  | none => .error badSign
  | some n => do
    let n ← machineInteger "long" n
    if n = 0 then return false
    else if n = 1 then return true
    else throw badSign

inductive Scale where
  | power (e : Int)
  | infinity
  | nan (signaling : Bool)

/-- Reads the third part: an exponent, or a letter for an infinity or a NaN. -/
def scaleOf : Value → Except Failure Scale
  | .text "F" => .ok .infinity
  | .text "n" => .ok (.nan false)
  | .text "N" => .ok (.nan true)
  | .text _ => .error (.badTriple "string argument in the third position must be 'F', 'n' or 'N'")
  | v =>
    match integer? v with
    | some e => (machineInteger "ssize_t" e).map .power
    | none => .error (.badTriple "exponent must be an integer")

def ofParts : List Value → Except Failure Decimal
  | [sign, digits, scale] => do
    let negative ← signOf sign
    let scale ← scaleOf scale
    let n := Text.digitsValue (← digitsOf digits)
    match scale with
    | .infinity => return .infinity negative
    | .nan signaling =>
      if Decimal.Context.tableNumber.precision < Decimal.digitCount n then
        return .nan false false 0
      else return .nan negative signaling n
    | .power e => fit (.finite negative n e)
  | _ => .error (.badTriple "argument must be a sequence of length 3")

/-- The number a value denotes: a text, a number of any kind, or a number in parts. -/
def number : Value → Except Failure Decimal
  | .text s => readNumber s
  | .bool b => fit (.ofInt (if b then 1 else 0))
  | .int _ n => fit (.ofInt n)
  | .float _ x => fit x.toDecimal
  | .decimal (.nan negative signaling payload) =>
    if Decimal.Context.tableNumber.precision < Decimal.digitCount payload then
      .ok (.nan false false 0)
    else .ok (.nan negative signaling payload)
  | .decimal d => fit d
  | .seq .list items | .seq .tuple items => ofParts items
  | v => .error (.notNumeric v.qualifiedName)

def bytes : Value → Except Failure Value
  | .bytes .fixed data => .ok (.wrapped .fixed data)
  | .bytes .growable data => .ok (.wrapped .growable data)
  | _ => .error .notBytes

/-- The set of what a reader makes of each element of a value. -/
def setOf (read : Value → Except Failure Value) (v : Value) : Except Failure Value := do
  let es ← v.elements
  let items ← es.foldlM
    (fun acc e => do
      let item ← read e
      item.checkHashable
      return Value.addItem item acc) []
  return .seq .set items

def scalar (tag : Tag) (v : Value) : Except Failure Value :=
  match tag with
  | .null => .ok .null
  | .number => (number v).map .decimal
  | .bytes => bytes v
  | .textSet => setOf .ok v
  | .numberSet => setOf (fun e => (number e).map .decimal) v
  | .bytesSet => setOf bytes v
  | .bool | .text | .list | .map => .ok v

mutual

def read : Value → Except Failure Value
  | .map _ ((k, v) :: _) =>
    match tagOf k with
    | .error e => .error e
    | .ok .list =>
      match v with
      | .seq _ items => (readEach items).map .list
      | .map _ entries => (readKeys entries).map .list
      | v => do
        let es ← v.elements
        match es with
        | [] => return .list []
        | e :: _ => throw (notAttribute e)
    | .ok .map =>
      match v with
      | .map _ entries => (readEntries entries).map (.map .plain)
      | v => .error (.noAttribute v.qualifiedName "items")
    | .ok tag => scalar tag v
  | v => .error (notAttribute v)

def readEach : List Value → Except Failure (List Value)
  | [] => .ok []
  | v :: vs => do
    let w ← read v
    let ws ← readEach vs
    return w :: ws

def readKeys : List (Value × Value) → Except Failure (List Value)
  | [] => .ok []
  | (k, _) :: es => do
    let w ← read k
    let ws ← readKeys es
    return w :: ws

def readEntries : List (Value × Value) → Except Failure (List (Value × Value))
  | [] => .ok []
  | (k, v) :: es => do
    let w ← read v
    let fs ← readEntries es
    return (k, w) :: fs

end

end Attribute

namespace Item

/-- Reads an item from its wire form and decodes it. -/
def ofWire (item : Value) : Except Failure Value := do
  let entries ← item.items
  let attributes ← Attribute.readEntries entries
  decode (.map .plain attributes)

end Item

def Decoder.wire : Decoder := Item.ofWire

end TabularSchema
