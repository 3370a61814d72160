/-!
# Inferred types

A type is an atom, an array of a type, or a struct of named types. Atoms carry two names, one for
each notation of the tabular engine, and are equal when both names agree. The fields of a struct
are kept sorted by name in code point order, so that two structs with the same fields are equal;
`DataType.structOf` builds a struct from fields in any order and refuses a repeated name.

`WellFormed` says that every struct inside a type has strictly ascending names.
-/

namespace TabularSchema

/-- A scalar type, with its name in the engine's JSON notation and in its short notation. -/
structure Atom where
  name : String
  shortName : String
deriving DecidableEq, Repr

namespace Atom

def null : Atom := ⟨"null", "null"⟩
def boolean : Atom := ⟨"boolean", "boolean"⟩
def byte : Atom := ⟨"byte", "tinyint"⟩
def short : Atom := ⟨"short", "smallint"⟩
def integer : Atom := ⟨"integer", "int"⟩
def long : Atom := ⟨"long", "bigint"⟩
def float : Atom := ⟨"float", "float"⟩
def double : Atom := ⟨"double", "double"⟩
def decimal : Atom := ⟨"decimal(38,18)", "decimal(38,18)"⟩
def string : Atom := ⟨"string", "string"⟩
def binary : Atom := ⟨"binary", "binary"⟩
def date : Atom := ⟨"date", "date"⟩
def timestamp : Atom := ⟨"timestamp", "timestamp"⟩

def standard : List Atom :=
  [null, boolean, byte, short, integer, long, float, double, decimal, string, binary, date,
    timestamp]

def ofName? (name : String) : Option Atom :=
  standard.find? (fun a => a.name == name)

end Atom

inductive DataType where
  | atom (a : Atom)
  | array (element : DataType) (containsNull : Bool)
  | struct (fields : List (String × DataType))
deriving Repr

/-- A named member of a struct or a schema; it is always nullable. -/
abbrev Field := String × DataType

namespace DataType

abbrev null : DataType := .atom .null
abbrev boolean : DataType := .atom .boolean
abbrev byte : DataType := .atom .byte
abbrev short : DataType := .atom .short
abbrev integer : DataType := .atom .integer
abbrev long : DataType := .atom .long
abbrev float : DataType := .atom .float
abbrev double : DataType := .atom .double
abbrev decimal : DataType := .atom .decimal
abbrev string : DataType := .atom .string
abbrev binary : DataType := .atom .binary
abbrev date : DataType := .atom .date
abbrev timestamp : DataType := .atom .timestamp

mutual

def decEq : (a b : DataType) → Decidable (a = b)
  | .atom a, .atom b => decidable_of_iff (a = b) (by simp)
  | .array e n, .array f m =>
    match decEq e f with
    | isTrue h => decidable_of_iff (n = m) (by simp [h])
    | isFalse h => isFalse (by simp [h])
  | .struct fs, .struct gs =>
    match decEqFields fs gs with
    | isTrue h => isTrue (by rw [h])
    | isFalse h => isFalse (by simp [h])
  | .atom _, .array _ _ | .atom _, .struct _ | .array _ _, .atom _ | .array _ _, .struct _
  | .struct _, .atom _ | .struct _, .array _ _ => isFalse (by simp)

def decEqFields : (fs gs : List (String × DataType)) → Decidable (fs = gs)
  | [], [] => isTrue rfl
  | [], _ :: _ => isFalse (by simp)
  | _ :: _, [] => isFalse (by simp)
  | (n, t) :: fs, (m, u) :: gs =>
    if hn : n = m then
      match decEq t u, decEqFields fs gs with
      | isTrue h, isTrue h' => isTrue (by rw [hn, h, h'])
      | isFalse h, _ => isFalse (by simp [h])
      | _, isFalse h => isFalse (by simp [h])
    else isFalse (by simp [hn])

end

instance : DecidableEq DataType := decEq

end DataType

/-- The reason a list of fields names no struct and no schema: two of them share a name. -/
structure DuplicateField where
  name : String
deriving DecidableEq, Repr

def DuplicateField.message (e : DuplicateField) : String :=
  "Duplicate field name: " ++ e.name

namespace Field

/-- Inserts a field into fields sorted by name, before those whose name is not smaller. -/
def insertSorted (f : Field) : List Field → List Field
  | [] => [f]
  | g :: gs => if g.1 < f.1 then g :: insertSorted f gs else f :: g :: gs

/-- Sorts fields by name in code point order; fields with one name keep their order. -/
def sort (fs : List Field) : List Field :=
  fs.foldr insertSorted []

/-- The first name of a list that also stands before it, where `seen` stands before the list. -/
def firstRepeat (seen : List String) : List Field → Option String
  | [] => none
  | f :: fs => if f.1 ∈ seen then some f.1 else firstRepeat (f.1 :: seen) fs

def checkUnique (fs : List Field) : Except DuplicateField (List Field) :=
  match firstRepeat [] fs with
  | some name => .error ⟨name⟩
  | none => .ok fs

end Field

namespace DataType

/-- The struct with the given fields. The smallest repeated name is reported. -/
def structOf (fs : List Field) : Except DuplicateField DataType :=
  (Field.checkUnique (Field.sort fs)).map .struct

def fields : DataType → List Field
  | .struct fs => fs
  | _ => []

mutual

/-- Every struct inside the type has strictly ascending field names. -/
def WellFormed : DataType → Prop
  | .atom _ => True
  | .array e _ => WellFormed e
  | .struct fs => WellFormedFields fs

def WellFormedFields : List (String × DataType) → Prop
  | [] => True
  | (n, t) :: fs => WellFormed t ∧ (∀ f ∈ fs, n < f.1) ∧ WellFormedFields fs

end

end DataType

end TabularSchema
