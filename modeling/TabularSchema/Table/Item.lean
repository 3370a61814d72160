import TabularSchema.Decoder
import TabularSchema.Value.Order

/-!
# Table items as documents

A table holds decimals, byte strings in a wrapper, and sets. As a document, a whole number becomes
an integer, a wrapped byte string is unwrapped, and a set becomes the sorted list of its items.
This reaches into plain mappings and lists; values of all other kinds stay as they are.
-/

namespace TabularSchema

namespace Item

mutual

def decode : Value → Except Failure Value
  | .decimal d =>
    match d.toInt? with
    | some n => .ok (.ofInt n)
    | none => .ok (.decimal d)
  | .wrapped form data => .ok (.bytes form data)
  | .map .plain entries => (decodeEntries entries).map (.map .plain)
  | .seq .list items => (decodeEach items).map (.seq .list)
  | .seq .set items | .seq .frozenSet items => do
    let decoded ← decodeEach items
    (Value.sort decoded).map (.seq .list)
  | v => .ok v

def decodeEach : List Value → Except Failure (List Value)
  | [] => .ok []
  | v :: vs => do
    let w ← decode v
    let ws ← decodeEach vs
    return w :: ws

def decodeEntries : List (Value × Value) → Except Failure (List (Value × Value))
  | [] => .ok []
  | (k, v) :: es => do
    let w ← decode v
    let fs ← decodeEntries es
    return (k, w) :: fs

end

end Item

/-- Decodes items of a table whose attributes are plain already. -/
def Decoder.item : Decoder := Item.decode

end TabularSchema
