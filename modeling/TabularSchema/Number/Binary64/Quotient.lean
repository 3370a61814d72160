import TabularSchema.Number.Binary64

/-!
# Floor quotients of doubles

The floor of a quotient as double arithmetic has it: the remainder is exact, and everything computed
from it is rounded. Only for very large numbers is this another integer than the floor of the exact
quotient.
-/

namespace TabularSchema

namespace Binary64

def rounded (q : Rat) : Rat := (ofRat q).toRat?.getD 0

/-- The remainder of a division by a positive integer, with the sign of the dividend. -/
def remainder (v : Rat) (divisor : Nat) : Rat :=
  let q := v / divisor
  v - divisor * (q.num.tdiv q.den : Rat)

/-- The floor of the quotient of a double by a positive integer. The quotient of what the remainder
leaves is lowered by one under a negative remainder, and taken to the nearest integer. -/
def floorQuotient (v : Rat) (divisor : Nat) : Int :=
  let r := remainder v divisor
  let q := rounded (rounded (v - r) / divisor)
  let q := if r < 0 then rounded (q - 1) else q
  if 1 / 2 < rounded (q - q.floor) then q.floor + 1 else q.floor

end Binary64

end TabularSchema
