import TabularSchema.Decoder
import TabularSchema.Schema
import TabularSchema.Typing

/-!
# Analyzers

An analyzer collects the types of the documents it is given and keeps nothing else of them.
Analyzers built over separate parts of a collection can be merged. A document that cannot be decoded
or typed changes nothing. The fields of a typed document are taken into account one by one, so a key
that names no field stops a document halfway; such a document does not count.
-/

namespace TabularSchema

structure Analyzer where
  decoder : Decoder
  fieldTypes : FieldTypes
  documentCount : Nat

namespace Analyzer

def new (decoder : Decoder) : Analyzer := ⟨decoder, [], 0⟩

/-- Takes types given under keys into account. -/
def addEntries (a : Analyzer) (entries : List (Value × DataType)) :
    Analyzer × Except Failure Unit :=
  let (fieldTypes, result) := a.fieldTypes.absorb entries
  ({ a with fieldTypes := fieldTypes }, result)

def count (a : Analyzer) : Analyzer := { a with documentCount := a.documentCount + 1 }

def add (a : Analyzer) (document : Value) : Analyzer × Except Failure Unit :=
  match a.decoder document >>= Value.typedEntries with
  | .error e => (a, .error e)
  | .ok entries =>
    match a.addEntries entries with
    | (b, .ok ()) => (b.count, .ok ())
    | (b, .error e) => (b, .error e)

/-- Takes the documents of another analyzer into account, by adding its field types. -/
def merge (a b : Analyzer) : Analyzer :=
  { (a.addEntries b.fieldTypes.entries).1 with
    documentCount := a.documentCount + b.documentCount }

theorem merge_eq (a b : Analyzer) :
    a.merge b =
      ⟨a.decoder, a.fieldTypes.merge b.fieldTypes, a.documentCount + b.documentCount⟩ := by
  rw [merge, addEntries, FieldTypes.absorb_entries]

/-- Adds documents in order, all of which have to succeed. -/
def addAll (a : Analyzer) : List Value → Except Failure Analyzer
  | [] => .ok a
  | d :: ds =>
    match a.add d with
    | (b, .ok ()) => b.addAll ds
    | (_, .error e) => .error e

def schema (a : Analyzer) : Except Failure Schema := Schema.ofFieldTypes a.fieldTypes

end Analyzer

end TabularSchema
