import TabularSchema.Failure
import TabularSchema.Value.Equality

/-!
# Order of values

Numbers are ordered by exact value across all kinds of numbers, texts by code point, byte strings
bytewise, dates and timestamps by time, and lists and tuples by the first items that differ. Sets
are ordered by strict inclusion. All other pairs have no order, and neither has a NaN where one of
the two numbers is a decimal.
`Value.sort` sorts by this order and fails on the first pair without one.
-/

namespace TabularSchema.Value

def orderedBytes? : Value → Option (List UInt8)
  | .bytes .fixed data => some data
  | .bytes .growable data => some data
  | _ => none

def lessScalar (a b : Value) : Except Failure Bool :=
  match a.number?, b.number? with
  | some p, some q =>
    if (a.isDecimal || b.isDecimal) && (p.isNaN || q.isNaN) then .error Failure.nanComparison
    else .ok (p.lt q)
  | _, _ =>
    match a.orderedBytes?, b.orderedBytes? with
    | some p, some q => .ok (decide (p < q))
    | _, _ =>
      match a, b with
      | .text s, .text t => .ok (decide (s < t))
      | .date d, .date e => .ok (decide (d.dayNumber < e.dayNumber))
      | .timestamp t, .timestamp u =>
        if t.offset.isSome = u.offset.isSome then .ok (decide (t.instant < u.instant))
        else .error .mixedOffsets
      | .date _, .timestamp _ | .timestamp _, .date _ => .error .dateAgainstTimestamp
      | .foreign k, .foreign l =>
        if k = l ∧ k ∈ [.time, .timedelta, .uuid, .deque] then .ok false
        else .error (.incomparable "<" a.qualifiedName b.qualifiedName)
      | _, _ => .error (.incomparable "<" a.qualifiedName b.qualifiedName)

mutual

def less : Value → Value → Except Failure Bool
  | .seq .list xs, .seq .list ys => lessEach xs ys
  | .seq .tuple xs, .seq .tuple ys => lessEach xs ys
  | .seq .set xs, .seq .set ys | .seq .set xs, .seq .frozenSet ys
  | .seq .frozenSet xs, .seq .set ys | .seq .frozenSet xs, .seq .frozenSet ys =>
    .ok (decide (xs.length < ys.length) && sameSome xs ys)
  | a, b => lessScalar a b

/-- Whether the first list stands before the second, by the first items that differ. -/
def lessEach : List Value → List Value → Except Failure Bool
  | [], [] => .ok false
  | [], _ :: _ => .ok true
  | _ :: _, [] => .ok false
  | x :: xs, y :: ys => if x.same y then lessEach xs ys else less x y

end

/-- Inserts a value into a sorted list, after those that do not stand behind it. -/
def insertLast (pivot : Value) : List Value → Except Failure (List Value)
  | [] => .ok [pivot]
  | v :: vs => do
    if ← less pivot v then return pivot :: v :: vs
    else return v :: (← insertLast pivot vs)

/-- Sorts values in ascending order; equal ones keep their order. -/
def sort (values : List Value) : Except Failure (List Value) :=
  values.foldlM (fun sorted v => insertLast v sorted) []

end TabularSchema.Value
