import TabularSchema.Calendar
import TabularSchema.Number.Binary64
import TabularSchema.Number.Decimal.Order

/-!
# Document values

A decoded document is a mapping of values. Besides scalars, sequences and mappings there are
integers and floats that carry the width they were stored with, byte strings in several forms, and
foreign objects of which only the kind is known, and the address where their text shows it. Mapping
entries stand in insertion order with distinct keys, and the items of a set are distinct;
`Value.Equality` builds both.
-/

namespace TabularSchema

/-- The width an integer was stored with; a plain integer carries none. -/
inductive IntWidth where
  | plain
  | bits8
  | bits16
  | bits32
  | bits64
deriving DecidableEq, Repr

inductive FloatWidth where
  | double
  | single
deriving DecidableEq, Repr

inductive BytesForm where
  | fixed
  | growable
  | view (address : Nat)
deriving DecidableEq, Repr

inductive SeqKind where
  | list
  | tuple
  | set
  | frozenSet
deriving DecidableEq, Repr

inductive MapKind where
  | plain
  | readOnly
deriving DecidableEq, Repr

/-- Objects of a kind that documents do not have. -/
inductive ForeignKind where
  | object (address : Nat)
  | complex
  | range
  | time
  | timedelta
  | uuid
  | deque
  | generator (address : Nat)
deriving DecidableEq, Repr

inductive Value where
  | null
  | bool (b : Bool)
  | int (width : IntWidth) (n : Int)
  | float (width : FloatWidth) (x : Binary64)
  | decimal (d : Decimal)
  | text (s : String)
  | bytes (form : BytesForm) (data : List UInt8)
  /-- A byte string in the wrapper that table items hold it in. -/
  | wrapped (form : BytesForm) (data : List UInt8)
  | date (d : Date)
  | timestamp (t : Timestamp)
  | seq (kind : SeqKind) (items : List Value)
  | map (kind : MapKind) (entries : List (Value × Value))
  | foreign (kind : ForeignKind)
deriving Repr

namespace IntWidth

def kindName : IntWidth → String
  | .plain => "int"
  | .bits8 => "Int8"
  | .bits16 => "Int16"
  | .bits32 => "Int32"
  | .bits64 => "Int64"

end IntWidth

namespace BytesForm

def kindName : BytesForm → String
  | .fixed => "bytes"
  | .growable => "bytearray"
  | .view _ => "memoryview"

end BytesForm

namespace ForeignKind

def kindName : ForeignKind → String
  | .object _ => "object"
  | .complex => "complex"
  | .range => "range"
  | .time => "time"
  | .timedelta => "timedelta"
  | .uuid => "UUID"
  | .deque => "deque"
  | .generator _ => "generator"

end ForeignKind

namespace Value

def kindName : Value → String
  | .null => "NoneType"
  | .bool _ => "bool"
  | .int width _ => width.kindName
  | .float .double _ => "float"
  | .float .single _ => "Float32"
  | .decimal _ => "Decimal"
  | .text _ => "str"
  | .bytes form _ => form.kindName
  | .wrapped _ _ => "Binary"
  | .date _ => "date"
  | .timestamp _ => "datetime"
  | .seq .list _ => "list"
  | .seq .tuple _ => "tuple"
  | .seq .set _ => "set"
  | .seq .frozenSet _ => "frozenset"
  | .map .plain _ => "dict"
  | .map .readOnly _ => "mappingproxy"
  | .foreign kind => kind.kindName

/-- The name of a value's kind with the package it belongs to, where it has one. -/
def qualifiedName : Value → String
  | .decimal _ => "decimal.Decimal"
  | .date _ => "datetime.date"
  | .timestamp _ => "datetime.datetime"
  | .foreign .time => "datetime.time"
  | .foreign .timedelta => "datetime.timedelta"
  | .foreign .deque => "collections.deque"
  | v => v.kindName

abbrev ofInt (n : Int) : Value := .int .plain n

abbrev list (items : List Value) : Value := .seq .list items

/-- A plain mapping whose keys are texts. -/
def record (entries : List (String × Value)) : Value :=
  .map .plain (entries.map fun e => (.text e.1, e.2))

def isNull : Value → Bool
  | .null => true
  | _ => false

def entries? : Value → Option (List (Value × Value))
  | .map _ entries => some entries
  | _ => none

/-- The decimal that equals a number of any kind; a truth value counts as zero or one. Numbers of
different kinds are compared through it, so that no comparison rounds. -/
def number? : Value → Option Decimal
  | .bool b => some (.ofInt (if b then 1 else 0))
  | .int _ n => some (.ofInt n)
  | .float _ x => some x.toDecimal
  | .decimal d => some d
  | _ => none

def isDecimal : Value → Bool
  | .decimal _ => true
  | _ => false

/-- Whether a value counts as true: null, zeros and empty collections do not. -/
def isTruthy : Value → Bool
  | .null => false
  | .bool b => b
  | .int _ n => n != 0
  | .float _ x => !x.isZero
  | .decimal d => !d.isZero
  | .text s => s != ""
  | .bytes _ data => !data.isEmpty
  | .seq _ items => !items.isEmpty
  | .map _ entries => !entries.isEmpty
  | .wrapped _ _ | .date _ | .timestamp _ | .foreign _ => true

end Value

end TabularSchema
