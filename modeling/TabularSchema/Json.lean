import TabularSchema.Number.Binary64

/-!
# JSON values

The tree of a JSON text. Objects keep their members in order, and integers are kept apart from
numbers with a fraction or an exponent.
-/

namespace TabularSchema

inductive Json where
  | null
  | bool (b : Bool)
  | int (n : Int)
  | float (x : Binary64)
  | text (s : String)
  | array (items : List Json)
  | object (members : List (String × Json))
deriving Repr

end TabularSchema
