import TabularSchema.Json
import TabularSchema.Number.Shortest
import TabularSchema.Text.Quoted
import TabularSchema.Text.Surrogate

/-!
# JSON as text

A JSON value on one line, with a blank behind each comma and colon. Only printable ASCII characters
are written as they are; all others are escaped by their sixteen bit units.
-/

namespace TabularSchema.Json

/-- The escape of one sixteen bit unit. -/
def unitEscape (n : Nat) : List Char := '\\' :: 'u' :: Text.hex 4 n

def escapeChar (c : Char) : List Char :=
  if c = '\x22' ∨ c = '\\' then ['\\', c]
  else if c = '\n' then ['\\', 'n']
  else if c = '\r' then ['\\', 'r']
  else if c = '\t' then ['\\', 't']
  else if c = '\x08' then ['\\', 'b']
  else if c = '\x0c' then ['\\', 'f']
  else if 0x20 ≤ c.toNat ∧ c.toNat ≤ 0x7e then [c]
  else if c.toNat ≤ 0xffff then unitEscape c.toNat
  else
    let (high, low) := Text.surrogatesOf c.toNat
    unitEscape high ++ unitEscape low

def quoteChars (s : String) : List Char :=
  '\x22' :: s.toList.flatMap escapeChar ++ ['\x22']

def floatText : Binary64 → String
  | .nan => "NaN"
  | .infinity negative => if negative then "-Infinity" else "Infinity"
  | x => x.text

def joinParts : List (List Char) → List Char
  | [] => []
  | [p] => p
  | p :: ps => p ++ ',' :: ' ' :: joinParts ps

mutual

def chars : Json → List Char
  | .null => "null".toList
  | .bool b => (if b then "true" else "false").toList
  | .int n => (toString n).toList
  | .float x => (floatText x).toList
  | .text s => quoteChars s
  | .array items => '[' :: joinParts (itemChars items) ++ [']']
  | .object members => '\x7b' :: joinParts (memberChars members) ++ ['\x7d']

def itemChars : List Json → List (List Char)
  | [] => []
  | j :: js => chars j :: itemChars js

def memberChars : List (String × Json) → List (List Char)
  | [] => []
  | (k, j) :: ms => (quoteChars k ++ ':' :: ' ' :: chars j) :: memberChars ms

end

def write (j : Json) : String := String.ofList j.chars

end TabularSchema.Json
