/-!
# Hexadecimal digits
-/

namespace TabularSchema.Text

/-- The value of a hexadecimal digit, in letters of either case. -/
def hexDigit? (c : Char) : Option Nat :=
  let n := c.toNat
  if 0x30 ≤ n ∧ n ≤ 0x39 then some (n - 0x30)
  else if 0x41 ≤ n ∧ n ≤ 0x46 then some (n - 0x37)
  else if 0x61 ≤ n ∧ n ≤ 0x66 then some (n - 0x57)
  else none

def hexFour? (a b c d : Char) : Option Nat := do
  let a ← hexDigit? a
  let b ← hexDigit? b
  let c ← hexDigit? c
  let d ← hexDigit? d
  return ((a * 16 + b) * 16 + c) * 16 + d

def bytesOfHex? : List Char → Option (List UInt8)
  | [] => some []
  | a :: b :: rest => do
    let a ← hexDigit? a
    let b ← hexDigit? b
    let bs ← bytesOfHex? rest
    return UInt8.ofNat (a * 16 + b) :: bs
  | _ => none

def hexOfByte (b : UInt8) : List Char :=
  [Nat.digitChar (b.toNat / 16), Nat.digitChar (b.toNat % 16)]

def hexOfBytes (bs : List UInt8) : String :=
  String.ofList (bs.flatMap hexOfByte)

end TabularSchema.Text
