import TabularSchema.DataType
import TabularSchema.Json

/-!
# Types as JSON

The engine's JSON notation of a type: an atom is its name, an array and a struct are objects that
name themselves, and every field is nullable and carries no metadata. `DataType.ofJson?` reads the
notation back.
-/

namespace TabularSchema.DataType

mutual

def toJson : DataType → Json
  | .atom a => .text a.name
  | .array e n =>
    .object [("type", .text "array"), ("elementType", toJson e), ("containsNull", .bool n)]
  | .struct fs => .object [("type", .text "struct"), ("fields", .array (fieldsToJson fs))]

def fieldsToJson : List (String × DataType) → List Json
  | [] => []
  | (n, t) :: fs =>
    .object [("name", .text n), ("type", toJson t), ("nullable", .bool true),
      ("metadata", .object [])] :: fieldsToJson fs

end

mutual

/-- Reads the notation of a type over the standard atoms. -/
def ofJson? : Json → Option DataType
  | .text name => (Atom.ofName? name).map .atom
  | .object [("type", .text "array"), ("elementType", e), ("containsNull", .bool n)] =>
    (ofJson? e).map (.array · n)
  | .object [("type", .text "struct"), ("fields", .array items)] =>
    (fieldsOfJson? items).map .struct
  | _ => none

def fieldsOfJson? : List Json → Option (List (String × DataType))
  | [] => some []
  | .object [("name", .text n), ("type", t), ("nullable", .bool true),
      ("metadata", .object [])] :: items => do
    let t ← ofJson? t
    let fs ← fieldsOfJson? items
    return (n, t) :: fs
  | _ => none

end

def fieldToJson (f : Field) : Json :=
  .object [("name", .text f.1), ("type", toJson f.2), ("nullable", .bool true),
    ("metadata", .object [])]

theorem fieldsToJson_eq_map (fs : List Field) : fieldsToJson fs = fs.map fieldToJson := by
  induction fs with
  | nil => rfl
  | cons f fs ih => rw [fieldsToJson, ih]; rfl

end TabularSchema.DataType
