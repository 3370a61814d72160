import TabularSchema.Failure
import TabularSchema.Value

/-!
# Going through a value

A text gives its characters, a byte string its bytes as integers, a sequence its items and a mapping
its keys. Some foreign objects can be gone through too.
-/

namespace TabularSchema.Value

def elements : Value → Except Failure (List Value)
  | .text s => .ok (s.toList.map fun c => .text (String.singleton c))
  | .bytes _ data => .ok (data.map fun b => ofInt b.toNat)
  | .seq _ items => .ok items
  | .map _ entries => .ok (entries.map Prod.fst)
  | .foreign .range | .foreign (.generator _) => .ok [ofInt 0, ofInt 1, ofInt 2]
  | .foreign .deque => .ok [ofInt 1, ofInt 2]
  | v => .error (.notIterable v.qualifiedName)

/-- The number of elements, for values that know it without going through them. -/
def length : Value → Except Failure Nat
  | .text s => .ok s.length
  | .bytes _ data => .ok data.length
  | .seq _ items => .ok items.length
  | .map _ entries => .ok entries.length
  | .foreign .range => .ok 3
  | .foreign .deque => .ok 2
  | v => .error (.noLength v.qualifiedName)

def items (v : Value) : Except Failure (List (Value × Value)) :=
  match v.entries? with
  | some entries => .ok entries
  | none => .error (.noAttribute v.qualifiedName "items")

end TabularSchema.Value
