import TabularSchema.FieldTypes
import TabularSchema.Value.Elements
import TabularSchema.Value.Text

/-!
# The type of a value

Every value has exactly one type. Sequences of all kinds are arrays of the join of their non-null
elements; mappings are structs whose fields are named by the texts of the keys; a value of an
unknown kind is a string. An array without non-null elements has null elements until it is joined
with one that has. A type is inferred only for a value all of whose keys name fields.
-/

namespace TabularSchema

/-- The narrowest of integer, long and decimal that holds an integer. -/
def DataType.ofIntRange (n : Int) : DataType :=
  -- The integers of 32 bits, and those of 64 bits.
  if -2147483648 ≤ n ∧ n < 2147483648 then integer
  else if -9223372036854775808 ≤ n ∧ n < 9223372036854775808 then long
  else decimal

namespace Value

def scalarType : Value → DataType
  | .null => .null
  | .bool _ => .boolean
  | .int .plain n => .ofIntRange n
  | .int .bits8 _ => .byte
  | .int .bits16 _ => .short
  | .int .bits32 _ => .integer
  | .int .bits64 _ => .long
  | .float .double _ => .double
  | .float .single _ => .float
  | .decimal _ => .decimal
  | .bytes _ _ => .binary
  | .date _ => .date
  | .timestamp _ => .timestamp
  | _ => .string

/-- The join of what is known of an element type with the type of one more element. -/
def joinElement (known : Option DataType) (t : DataType) : DataType :=
  match known with
  | none => t
  | some u => u.join t

mutual

def typeOf : Value → DataType
  | .seq _ items => .array ((elementType none items).getD .null) (items.any isNull)
  | .map _ entries => .struct (Field.sort (entryTypes [] entries))
  | v => scalarType v

def elementType (known : Option DataType) : List Value → Option DataType
  | [] => known
  | v :: vs =>
    elementType (if v.isNull then known else some (joinElement known (typeOf v))) vs

/-- Known field types together with those of the entries of a mapping. -/
def entryTypes (known : FieldTypes) : List (Value × Value) → FieldTypes
  | [] => known
  | (k, v) :: es => entryTypes (known.observe k.plainText (typeOf v)) es

end

mutual

/-- Accepts a value in which the keys of all mappings name fields. Keys are not gone into. -/
def checkNamed : Value → Except Failure Unit
  | .seq _ items => checkEachNamed items
  | .map _ entries => checkEntriesNamed entries
  | _ => .ok ()

def checkEachNamed : List Value → Except Failure Unit
  | [] => .ok ()
  | v :: vs => do checkNamed v; checkEachNamed vs

def checkEntriesNamed : List (Value × Value) → Except Failure Unit
  | [] => .ok ()
  | (k, v) :: es => do let _ ← k.fieldName; checkNamed v; checkEntriesNamed es

end

def inferType (v : Value) : Except Failure DataType := do
  v.checkNamed
  return v.typeOf

/-- The array type of what a value gives when it is gone through. -/
def typeOfElements (v : Value) : Except Failure DataType := do
  inferType (.list (← v.elements))

def typedEntries (document : Value) : Except Failure (List (Value × DataType)) :=
  match document.entries? with
  | some entries => entries.mapM fun e => do return (e.1, ← e.2.inferType)
  | none => .error (.notMapping document.kindName)

end Value

namespace FieldTypes

/-- Takes typed entries into account in their order, up to the first whose key names no field. -/
def absorb (fs : FieldTypes) : List (Value × DataType) → FieldTypes × Except Failure Unit
  | [] => (fs, .ok ())
  | (key, t) :: entries =>
    match key.fieldName with
    | .ok name => absorb (fs.observe name t) entries
    | .error e => (fs, .error e)

def entries (fs : FieldTypes) : List (Value × DataType) := fs.map fun f => (.text f.1, f.2)

theorem absorb_entries (fs gs : FieldTypes) : fs.absorb gs.entries = (fs.merge gs, .ok ()) := by
  induction gs generalizing fs with
  | nil => rfl
  | cons g gs ih => exact ih (fs.observe g.1 g.2)

end FieldTypes

end TabularSchema
