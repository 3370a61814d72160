import TabularSchema.DataType

/-!
# Widening of atoms

Each numeric or temporal atom lists its upper bounds, the narrowest first. A long widens to a
decimal and to a float, whose only common bound is a double. The tightest common type of two types
is the first upper bound of one that is also an upper bound of the other.
-/

namespace TabularSchema

namespace Atom

/-- The upper bounds of an atom, narrowest first; an atom that does not widen has none. -/
def bounds (a : Atom) : List Atom :=
  if a = byte then [byte, short, integer, long, decimal, float, double]
  else if a = short then [short, integer, long, decimal, float, double]
  else if a = integer then [integer, long, decimal, float, double]
  else if a = long then [long, decimal, float, double]
  else if a = decimal then [decimal, double]
  else if a = float then [float, double]
  else if a = double then [double]
  else if a = date then [date, timestamp]
  else if a = timestamp then [timestamp]
  else []

/-- The narrowest bound of the first atom that also bounds the second. -/
def commonBound? (a b : Atom) : Option Atom :=
  a.bounds.find? (fun c => decide (c ∈ b.bounds))

end Atom

namespace DataType

/-- The narrowest type both types widen to without loss, if there is one. Equal types have
themselves, and null has the other type. -/
def tightestCommon? (a b : DataType) : Option DataType :=
  if a = b then some a
  else if a = null then some b
  else if b = null then some a
  else
    match a, b with
    | .atom x, .atom y => (x.commonBound? y).map .atom
    | _, _ => none

end DataType

end TabularSchema
