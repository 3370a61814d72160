import TabularSchema.DataType
import TabularSchema.Text.Case
import TabularSchema.Text.Quoted

/-!
# The texts of a type

`DataType.simple` is the engine's short notation, which leaves out whether an array contains null.
`DataType.inspect` shows the whole structure of a type.
-/

namespace TabularSchema

/-- The name of an atom up to its first parenthesis, capitalized. -/
def Atom.inspect (a : Atom) : String :=
  Text.capitalize (String.ofList (a.name.toList.takeWhile (· != '('))) ++ "Type"

namespace DataType

mutual

def simple : DataType → String
  | .atom a => a.shortName
  | .array e _ => "array<" ++ simple e ++ ">"
  | .struct fs => "struct<" ++ ",".intercalate (simpleFields fs) ++ ">"

def simpleFields : List (String × DataType) → List String
  | [] => []
  | (n, t) :: fs => (n ++ ":" ++ simple t) :: simpleFields fs

end

/-- The members of a tuple in parentheses; a single one is followed by a comma. -/
def tupleText : List String → String
  | [item] => "(" ++ item ++ ",)"
  | items => "(" ++ ", ".intercalate items ++ ")"

mutual

def inspect : DataType → String
  | .atom a => a.inspect
  | .array e n =>
    "ArrayType(element_type=" ++ inspect e ++ ", contains_null=" ++
      (if n then "True" else "False") ++ ")"
  | .struct fs => "StructType(fields=" ++ tupleText (inspectFields fs) ++ ")"

def inspectFields : List (String × DataType) → List String
  | [] => []
  | (n, t) :: fs =>
    ("StructField(name=" ++ Text.quoted n ++ ", data_type=" ++ inspect t ++ ")") ::
      inspectFields fs

end

end DataType

end TabularSchema
