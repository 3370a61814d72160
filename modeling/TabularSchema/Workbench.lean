import TabularSchema.Analyzer

/-!
# The workbench

Analyzers by name, and the actions performed on them. An action changes the analyzer of its name
only.
-/

namespace TabularSchema

structure Workbench where
  analyzers : List (String × Analyzer)

namespace Workbench

inductive Action where
  /-- Starts afresh with a decoder. -/
  | start (decoder : Decoder)
  | add (document : Value)
  /-- Adds typed fields given under keys. -/
  | addTypes (types : List (Value × DataType))
  /-- Takes over the documents of the named analyzer. -/
  | merge (source : String)
  | schema
  /-- Reads the field types and throws the copy away. -/
  | discardCopy

def empty : Workbench := ⟨[]⟩

/-- The analyzer of a name; a name not used yet has an empty one. -/
def get (w : Workbench) (name : String) : Analyzer :=
  ((w.analyzers.find? (fun p => p.1 == name)).map Prod.snd).getD (Analyzer.new .plain)

def put (w : Workbench) (name : String) (a : Analyzer) : Workbench :=
  ⟨(name, a) :: w.analyzers.filter (fun p => p.1 != name)⟩

/-- Adds types given under keys: equal keys count once, with the last type. -/
def addTypes (a : Analyzer) (types : List (Value × DataType)) : Analyzer × Except Failure Unit :=
  match Value.entriesOf types with
  | .ok entries => a.addEntries entries
  | .error e => (a, .error e)

/-- What an action makes of the analyzer it is performed on, and its answer: a schema if it asks for
one, and nothing otherwise. -/
def perform (w : Workbench) (a : Analyzer) : Action → Analyzer × Except Failure (Option Schema)
  | .start decoder => (Analyzer.new decoder, .ok none)
  | .add document =>
    let (b, result) := a.add document
    (b, result.map fun _ => none)
  | .addTypes types =>
    let (b, result) := addTypes a types
    (b, result.map fun _ => none)
  | .merge source => (a.merge (w.get source), .ok none)
  | .schema => (a, a.schema.map some)
  | .discardCopy => (a, .ok none)

def step (w : Workbench) (name : String) (action : Action) :
    Workbench × Except Failure (Option Schema) :=
  let (a, answer) := w.perform (w.get name) action
  (w.put name a, answer)

end Workbench

end TabularSchema
