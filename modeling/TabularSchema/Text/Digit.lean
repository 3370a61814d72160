/-!
# Decimal digits of all scripts

Every script with positional digits has ten of them in a row of code points. The table lists the
code point of each zero. A number is read with the digits of all scripts or with those of one, as
`value?` tells.
-/

namespace TabularSchema.Text

def digitZeros : List Nat :=
  [
    0x30, 0x660, 0x6f0, 0x7c0, 0x966, 0x9e6, 0xa66, 0xae6, 0xb66, 0xbe6, 0xc66, 0xce6, 0xd66,
    0xde6, 0xe50, 0xed0, 0xf20, 0x1040, 0x1090, 0x17e0, 0x1810, 0x1946, 0x19d0, 0x1a80, 0x1a90,
    0x1b50, 0x1bb0, 0x1c40, 0x1c50, 0xa620, 0xa8d0, 0xa900, 0xa9d0, 0xa9f0, 0xaa50, 0xabf0, 0xff10,
    0x104a0, 0x10d30, 0x11066, 0x110f0, 0x11136, 0x111d0, 0x112f0, 0x11450, 0x114d0, 0x11650,
    0x116c0, 0x11730, 0x118e0, 0x11950, 0x11c50, 0x11d50, 0x11da0, 0x16a60, 0x16ac0, 0x16b50,
    0x1d7ce, 0x1d7d8, 0x1d7e2, 0x1d7ec, 0x1d7f6, 0x1e140, 0x1e2f0, 0x1e950, 0x1fbf0
  ]

/-- The value of a decimal digit of any script. -/
def digitValue? (c : Char) : Option Nat :=
  (digitZeros.find? (fun z => decide (z ≤ c.toNat ∧ c.toNat < z + 10))).map (c.toNat - ·)

/-- The number a list of digit values denotes in base ten. -/
def digitsValue (ds : List Nat) : Nat :=
  ds.foldl (fun acc d => acc * 10 + d) 0

def asciiNumber (cs : List Char) : Nat :=
  digitsValue (cs.map fun c => c.toNat - 48)

def asciiDigit? (c : Char) : Option Nat := if c.isDigit then some (c.toNat - 48) else none

/-- Splits off an optional sign and says whether it is a minus. -/
def readSign : List Char → Bool × List Char
  | '+' :: cs => (false, cs)
  | '-' :: cs => (true, cs)
  | cs => (false, cs)

section Reading

variable (value? : Char → Option Nat)

def spanDigits : List Char → List Nat × List Char
  | [] => ([], [])
  | c :: cs =>
    match value? c with
    | some d => let (ds, rest) := spanDigits cs; (d :: ds, rest)
    | none => ([], c :: cs)

/-- Reads an exponent that takes up the whole text; an absent one is zero. -/
def readExponent? : List Char → Option Int
  | [] => some 0
  | c :: cs =>
    if c = 'e' ∨ c = 'E' then
      let (negative, cs) := readSign cs
      match spanDigits value? cs with
      | (d :: ds, []) =>
        let n : Int := digitsValue (d :: ds)
        some (if negative then -n else n)
      | _ => none
    else none

/-- Reads digits with an optional point among them and an optional exponent, as one coefficient and
the power of ten that goes with it. -/
def readDigits? (cs : List Char) : Option (Nat × Int) :=
  let (whole, rest) := spanDigits value? cs
  let (fraction, rest) :=
    match rest with
    | '.' :: cs => spanDigits value? cs
    | cs => ([], cs)
  if whole.isEmpty && fraction.isEmpty then none
  else
    (readExponent? value? rest).map fun e =>
      (digitsValue (whole ++ fraction), e - (fraction.length : Int))

end Reading

end TabularSchema.Text
