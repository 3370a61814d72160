/-!
# Surrogates

A code point above `0xffff` is written in sixteen bit units as a high and a low surrogate. A
surrogate that stands alone is no character and is read as the replacement character.
-/

namespace TabularSchema.Text

def isHighSurrogate (n : Nat) : Bool := decide (0xd800 ≤ n ∧ n ≤ 0xdbff)

def isLowSurrogate (n : Nat) : Bool := decide (0xdc00 ≤ n ∧ n ≤ 0xdfff)

def replacementChar : Char := Char.ofNat 0xfffd

/-- The character of a code point; there is none for a surrogate. -/
def charOf (n : Nat) : Char :=
  if isHighSurrogate n || isLowSurrogate n then replacementChar else Char.ofNat n

def pairCode (high low : Nat) : Nat := (high - 0xd800) * 0x400 + (low - 0xdc00) + 0x10000

def surrogatesOf (n : Nat) : Nat × Nat :=
  (0xd800 + (n - 0x10000) / 0x400, 0xdc00 + (n - 0x10000) % 0x400)

/-- The characters of a list of units, in which each high surrogate joins a low one right behind. -/
def joinUnits : List Nat → List Char
  | [] => []
  | [n] => [charOf n]
  | n :: m :: rest =>
    if isHighSurrogate n && isLowSurrogate m then Char.ofNat (pairCode n m) :: joinUnits rest
    else charOf n :: joinUnits (m :: rest)

end TabularSchema.Text
