import TabularSchema.DataType.Json
import TabularSchema.DataType.Text
import TabularSchema.FieldTypes
import TabularSchema.Value.Equality
import TabularSchema.Value.Text

/-!
# Schemas

The schema of a collection: uniquely named fields, which unlike those of a struct keep the order
they were given in. `Schema.ofFields` refuses a repeated name and reports the first one that
repeats.
-/

namespace TabularSchema

namespace Field

theorem nodup_of_firstRepeat (fs : List Field) (seen : List String)
    (h : firstRepeat seen fs = none) :
    (fs.map Prod.fst).Nodup ∧ ∀ n ∈ seen, n ∉ fs.map Prod.fst := by
  induction fs generalizing seen with
  | nil => simp
  | cons f fs ih =>
    rw [firstRepeat] at h
    split at h
    · exact absurd h (by simp)
    · next hf =>
      obtain ⟨hfs, hseen⟩ := ih (f.1 :: seen) h
      refine ⟨List.nodup_cons.2 ⟨hseen f.1 (by simp), hfs⟩, fun n hn hmem => ?_⟩
      rcases List.mem_cons.1 hmem with rfl | hmem
      · exact hf hn
      · exact hseen n (by simp [hn]) hmem

end Field

/-- The struct of types given by name. The name `cls` is taken, it stands for the kind of struct. -/
def FieldTypes.toStruct (fs : FieldTypes) : Except Failure DataType :=
  if "cls" ∈ fs.names then .error (.boundTwice "StructType.of" "cls")
  else
    match DataType.structOf fs with
    | .ok t => .ok t
    | .error e => .error (.duplicateField e.name)

structure Schema where
  fields : List Field
  distinct : (fields.map Prod.fst).Nodup
deriving DecidableEq

namespace Schema

def empty : Schema := ⟨[], List.nodup_nil⟩

/-- The schema with the given fields. The first name that repeats is reported. -/
def ofFields (fs : List Field) : Except DuplicateField Schema :=
  match h : Field.firstRepeat [] fs with
  | some name => .error ⟨name⟩
  | none => .ok ⟨fs, (Field.nodup_of_firstRepeat fs [] h).1⟩

def ofFieldTypes (fs : FieldTypes) : Except Failure Schema :=
  match ofFields fs with
  | .ok s => .ok s
  | .error e => .error (.duplicateField e.name)

def names (s : Schema) : List String := s.fields.map Prod.fst

def get? (s : Schema) (name : String) : Option DataType :=
  FieldTypes.get? s.fields name

/-- The type of the field a key names. A key that is no text names none, and one that may change
cannot be looked up. -/
def find? (s : Schema) (key : Value) : Except Failure (Option DataType) := do
  key.checkHashable
  match key with
  | .text name => return s.get? name
  | _ => return none

def contains (s : Schema) (key : Value) : Except Failure Bool :=
  (s.find? key).map Option.isSome

def get (s : Schema) (key : Value) : Except Failure DataType := do
  match ← s.find? key with
  | some t => return t
  | none => throw (.noField key.inspect)

def asStruct (s : Schema) : DataType := .struct (Field.sort s.fields)

/-- The JSON notation of a struct with the fields in schema order. -/
def toJson (s : Schema) : Json :=
  .object [("type", .text "struct"), ("fields", .array (DataType.fieldsToJson s.fields))]

def ofJson? : Json → Option Schema
  | .object [("type", .text "struct"), ("fields", .array items)] => do
    let fs ← DataType.fieldsOfJson? items
    (ofFields fs).toOption
  | _ => none

def simple (s : Schema) : String := (DataType.struct s.fields).simple

def inspect (s : Schema) : String :=
  "Schema([" ++ ", ".intercalate (DataType.inspectFields s.fields) ++ "])"

end Schema

end TabularSchema
