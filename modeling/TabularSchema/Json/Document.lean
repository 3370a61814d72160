import TabularSchema.Decoder
import TabularSchema.Json.Reader
import TabularSchema.Text.Encoding
import TabularSchema.Value.Equality

/-!
# Documents in JSON

`Json.toValue` turns a JSON tree into a document value; of members with one name the last counts, in
the place of the first. `Decoder.json` reads documents from texts and byte strings.
-/

namespace TabularSchema

namespace Json

mutual

def toValue : Json → Value
  | .null => .null
  | .bool b => .bool b
  | .int n => .ofInt n
  | .float x => .float .double x
  | .text s => .text s
  | .array items => .list (toValues items)
  | .object members => .map .plain (toEntries [] members)

def toValues : List Json → List Value
  | [] => []
  | j :: js => toValue j :: toValues js

/-- Known entries together with those of the members. -/
def toEntries (known : List (Value × Value)) : List (String × Json) → List (Value × Value)
  | [] => known
  | (k, j) :: ms => toEntries (Value.putEntry (.text k) (toValue j) known) ms

end

end Json

namespace Value

def jsonSource : Value → Except Failure String
  | .text s => .ok s
  | .bytes (.view address) data => .error (.jsonSource (Value.bytes (.view address) data).kindName)
  | .bytes _ data =>
    match Text.ofBytes data with
    | .ok s => .ok s
    | .error f => .error (.undecodable f.codec f.span f.reason)
  | v => .error (.jsonSource v.kindName)

end Value

def Decoder.json : Decoder := fun v => do
  let s ← v.jsonSource
  let j ← Json.parse s
  return j.toValue

end TabularSchema
