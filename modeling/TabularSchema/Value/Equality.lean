import TabularSchema.Failure
import TabularSchema.Value

/-!
# Equality of values, keys and sets

Numbers are equal by value across all kinds of numbers, byte strings by content, objects and
generators only to themselves, and everything else only within its own kind. Keys of mappings and
items of sets are told apart by this equality: a later entry with an equal key replaces the value
and keeps the first key in its place, and a later equal item is dropped. A value that may change
cannot be a key or an item.
-/

namespace TabularSchema.Value

def byteContent? : Value → Option (List UInt8)
  | .bytes _ data => some data
  | .wrapped _ data => some data
  | _ => none

mutual

def same : Value → Value → Bool
  | .seq .list xs, .seq .list ys => sameEach xs ys
  | .seq .tuple xs, .seq .tuple ys => sameEach xs ys
  | .seq .set xs, .seq .set ys | .seq .set xs, .seq .frozenSet ys
  | .seq .frozenSet xs, .seq .set ys | .seq .frozenSet xs, .seq .frozenSet ys =>
    xs.length == ys.length && sameSome xs ys
  | .map _ es, .map _ fs => es.length == fs.length && sameEntries es fs
  | .null, .null => true
  | .text s, .text t => s == t
  | .date d, .date e => decide (d = e)
  | .timestamp t, .timestamp u => t.offset.isSome == u.offset.isSome && t.instant == u.instant
  | .foreign k, .foreign l => decide (k = l)
  | a, b =>
    match a.number?, b.number? with
    | some p, some q => p.same q
    | _, _ =>
      match a.byteContent?, b.byteContent? with
      | some p, some q => p == q
      | _, _ => false

def sameEach : List Value → List Value → Bool
  | [], [] => true
  | x :: xs, y :: ys => same x y && sameEach xs ys
  | _, _ => false

def sameSome : List Value → List Value → Bool
  | [], _ => true
  | x :: xs, ys => ys.any (fun y => same x y) && sameSome xs ys

def sameEntries : List (Value × Value) → List (Value × Value) → Bool
  | [], _ => true
  | (k, v) :: es, fs => fs.any (fun f => same k f.1 && same v f.2) && sameEntries es fs

end

mutual

/-- Accepts a value that can be a key or an item of a set. -/
def checkHashable : Value → Except Failure Unit
  | .seq .tuple xs => checkAllHashable xs
  | .seq .frozenSet _ => .ok ()
  | .seq kind xs => .error (.unhashable (Value.seq kind xs).qualifiedName)
  | .map kind es => .error (.unhashable (Value.map kind es).qualifiedName)
  | .bytes .growable data => .error (.unhashable (Value.bytes .growable data).qualifiedName)
  | .wrapped .growable data => .error (.unhashable (Value.bytes .growable data).qualifiedName)
  | .foreign .deque => .error (.unhashable (Value.foreign .deque).qualifiedName)
  | .decimal (.nan _ true _) => .error .unhashableNaN
  | _ => .ok ()

def checkAllHashable : List Value → Except Failure Unit
  | [] => .ok ()
  | x :: xs => do checkHashable x; checkAllHashable xs

end

/-- Sets the value under a key, in place of the entry with an equal key or at the end. -/
def putEntry {α : Type} (key : Value) (value : α) : List (Value × α) → List (Value × α)
  | [] => [(key, value)]
  | (k, v) :: es => if k.same key then (k, value) :: es else (k, v) :: putEntry key value es

def entriesOf {α : Type} (pairs : List (Value × α)) : Except Failure (List (Value × α)) :=
  pairs.foldlM (fun es p => do checkHashable p.1; return putEntry p.1 p.2 es) []

/-- Adds an item to the items of a set unless an equal one is there. -/
def addItem (item : Value) (items : List Value) : List Value :=
  if items.any (·.same item) then items else items ++ [item]

def itemsOf (items : List Value) : Except Failure (List Value) :=
  items.foldlM (fun acc x => do checkHashable x; return addItem x acc) []

def setOf (kind : SeqKind) (items : List Value) : Except Failure Value :=
  (itemsOf items).map (.seq kind)

def mapOf (kind : MapKind) (pairs : List (Value × Value)) : Except Failure Value :=
  (entriesOf pairs).map (.map kind)

end TabularSchema.Value
