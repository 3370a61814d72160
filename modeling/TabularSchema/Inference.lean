import TabularSchema.Analyzer
import TabularSchema.Sampling

/-!
# Schema inference

The schema of a collection of documents, given whole or in partitions. A collection is sampled, and
every sampled document is decoded, typed and joined by field name. Partitions are sampled and
aggregated apart, each with a seed of its own, and then merged in their order.
-/

namespace TabularSchema

namespace Inference

/-- How a collection is examined. -/
structure Plan where
  ratio : Value
  seed : Int
  decoder : Decoder

def Plan.full : Plan := ⟨.float .double (Binary64.ofInt 1), Sampling.defaultSeed, .plain⟩

def sample (documents ratio : Value) (seed : Int) : Except Failure (List Value) := do
  let r ← Sampling.acceptRatio ratio
  let ds ← documents.elements
  return Sampling.sample r seed ds

/-- Adds the marked ones of documents in order, up to the first that fails. Gives the result and the
number of documents that were asked for, marked or not. -/
def examine (a : Analyzer) : List (Value × Bool) → Except Failure Analyzer × Nat
  | [] => (.ok a, 0)
  | (d, true) :: ds =>
    match a.add d with
    | (b, .ok ()) =>
      let (result, n) := examine b ds
      (result, n + 1)
    | (_, .error e) => (.error e, 1)
  | (_, false) :: ds =>
    let (result, n) := examine a ds
    (result, n + 1)

/-- Examining marked documents is adding those that are kept. -/
theorem examine_fst (a : Analyzer) (ds : List (Value × Bool)) :
    (examine a ds).1 = a.addAll (Sampling.kept ds) := by
  induction ds generalizing a with
  | nil => rfl
  | cons d ds ih =>
    obtain ⟨d, kept⟩ := d
    cases kept with
    | false => simpa [examine, Sampling.kept] using ih a
    | true =>
      have step : Sampling.kept ((d, true) :: ds) = d :: Sampling.kept ds := rfl
      rw [step, examine, Analyzer.addAll]
      obtain ⟨b, result⟩ := a.add d
      cases result with
      | ok => exact ih b
      | error e => rfl

def aggregate (decoder : Decoder) (documents : List Value) : Except Failure FieldTypes :=
  ((Analyzer.new decoder).addAll documents).map (·.fieldTypes)

def infer (p : Plan) (documents : Value) : Except Failure Schema := do
  let ds ← sample documents p.ratio p.seed
  let fs ← aggregate p.decoder ds
  Schema.ofFieldTypes fs

/-- Pairs each partition with its seed, which counts up from the given one. -/
def withSeeds (seed : Int) : List Value → List (Int × Value)
  | [] => []
  | d :: ds => (seed, d) :: withSeeds (seed + 1) ds

/-- Samples all partitions before any document is decoded, then aggregates them in order. -/
def aggregateTogether (p : Plan) (parts : List (Int × Value)) :
    Except Failure (List FieldTypes) := do
  let sampled ← parts.mapM fun part => sample part.2 p.ratio part.1
  sampled.mapM (aggregate p.decoder)

/-- Samples and aggregates one partition after another. The ratio is checked for all beforehand. -/
def aggregateInTurn (p : Plan) (parts : List (Int × Value)) :
    Except Failure (List FieldTypes) := do
  let _ ← parts.mapM fun _ => Sampling.acceptRatio p.ratio
  parts.mapM fun part => do
    let ds ← sample part.2 p.ratio part.1
    aggregate p.decoder ds

/-- Whether the partitions are all opened before the first document is decoded: a full scan opens
each at once, and concurrent workers are handed complete samples. -/
def opensTogether (p : Plan) (concurrent : Bool) : Bool :=
  concurrent ||
    match Sampling.acceptRatio p.ratio with
    | .ok r => Sampling.isFullScan r
    | .error _ => false

def inferPartitioned (p : Plan) (concurrent : Bool) (partitions : Value) :
    Except Failure Schema := do
  let parts := withSeeds p.seed (← partitions.elements)
  let partials ←
    if opensTogether p concurrent then aggregateTogether p parts else aggregateInTurn p parts
  Schema.ofFieldTypes (partials.foldl FieldTypes.merge [])

end Inference

end TabularSchema
