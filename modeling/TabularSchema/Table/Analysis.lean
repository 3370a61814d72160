import TabularSchema.Inference
import TabularSchema.Settings
import TabularSchema.Table.Scan

/-!
# The schema of a table

A table is scanned up to the record limit of the settings, and the items are sampled and joined into
a schema like any other collection. Each item is examined before the next one is asked for, so an
item that fails ends the scan.
-/

namespace TabularSchema

namespace Table

/-- The condition that scanned items have to meet, with the values and names it speaks of. -/
structure Filter where
  expression : Value
  values : Value
  names : Value

def Filter.none : Filter := ⟨.null, .null, .null⟩

/-- A schema with what it took to get it: the calls made and the number of pages requested. -/
structure Analysis where
  schema : Except Failure Schema
  calls : List ServiceCall
  pagesRead : Nat

def request (s : InferenceSettings) (table : String) (f : Filter) : Scan.Request :=
  ⟨table, .ofInt s.maxRecords, .ofInt s.pageSize, f.expression, f.values, f.names⟩

def plan (s : InferenceSettings) : Inference.Plan :=
  ⟨.float .double s.ratio, s.seed, .plain⟩

/-- The schema of scanned items, unless the scan was cut short. -/
def schemaOf (o : Scan.Outcome) (a : Analyzer) : Except Failure Schema :=
  match o.failure with
  | some e => .error e
  | none => a.schema

/-- Samples the items of a scan and infers their schema. If an item fails, the scan has gone no
further than that item. -/
def examine (r : Scan.Request) (pages : Pages) (limit : Option Nat) (ratio : Decimal) (seed : Int) :
    Analysis :=
  let o := Scan.run r pages limit
  match Inference.examine (.new .plain) (Sampling.mark ratio seed o.items) with
  | (.ok a, _) => ⟨schemaOf o a, o.calls, o.pagesRead⟩
  | (.error e, asked) =>
    let cut := Scan.run r pages (Scan.smaller limit (some asked))
    ⟨.error e, cut.calls, cut.pagesRead⟩

/-- Scans a table and infers its schema. The limit and the ratio are checked before. -/
def analyze (s : InferenceSettings) (table : String) (f : Filter) (pages : Pages) : Analysis :=
  let r := request s table f
  let checked : Except Failure (Option Nat × Decimal) := do
    let limit ← Scan.limitOf r.limit
    return (limit, ← Sampling.acceptRatio (plan s).ratio)
  match checked with
  | .error e => ⟨.error e, [], 0⟩
  | .ok (limit, ratio) => examine r pages limit ratio s.seed

end Table

end TabularSchema
