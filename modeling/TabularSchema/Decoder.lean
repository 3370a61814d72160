import TabularSchema.Failure
import TabularSchema.Value

/-!
# Decoders

A decoder turns a raw document into a mapping of fields, or says why it cannot.
-/

namespace TabularSchema

abbrev Decoder := Value → Except Failure Value

def Decoder.plain : Decoder := .ok

end TabularSchema
