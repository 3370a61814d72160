/-!
# Blank characters

White space as the Unicode property has it, and the wider class that also holds the four ASCII
information separators, with trimming of both ends of a text.
-/

namespace TabularSchema.Text

def isWhiteSpace (c : Char) : Bool :=
  let n := c.toNat
  decide (0x9 ≤ n ∧ n ≤ 0xd) || n == 0x20 || n == 0x85 || n == 0xa0 || n == 0x1680 ||
    decide (0x2000 ≤ n ∧ n ≤ 0x200a) || n == 0x2028 || n == 0x2029 || n == 0x202f || n == 0x205f ||
    n == 0x3000

/-- White space and the information separators. -/
def isBlank (c : Char) : Bool :=
  isWhiteSpace c || decide (0x1c ≤ c.toNat ∧ c.toNat ≤ 0x1f)

def trimBoth (p : Char → Bool) (cs : List Char) : List Char :=
  ((cs.dropWhile p).reverse.dropWhile p).reverse

end TabularSchema.Text
