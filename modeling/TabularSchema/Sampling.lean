import TabularSchema.Failure
import TabularSchema.Sampling.Generator
import TabularSchema.Value.Text

/-!
# Sampling without replacement

Each document is kept independently with a probability given by the sampling ratio; ratios above
the full scan threshold keep every document. A draw is made for every document, kept or not, so
whether a document is kept depends on its place, the seed and the ratio alone.
-/

namespace TabularSchema

namespace Sampling

def defaultSeed : Int := 1

/-- The ratio above which every document is kept: the double nearest to 0.99. -/
def fullScanThreshold : Decimal := (Binary64.ofRatio false 99 100).toDecimal

def isFullScan (ratio : Decimal) : Bool := fullScanThreshold.lt ratio

/-- The failure of comparing a value that is no number with a ratio. -/
def notComparable : Value → Failure
  | .map .readOnly _ => .incomparable ">=" "dict" "float"
  | v => .incomparable "<=" "float" v.qualifiedName

def inUnitInterval (ratio : Decimal) : Bool :=
  (Decimal.ofInt 0).le ratio && ratio.le (Decimal.ofInt 1)

/-- The exact ratio a value denotes, which has to lie in the unit interval. -/
def acceptRatio (v : Value) : Except Failure Decimal :=
  match v.number? with
  | none => .error (notComparable v)
  | some ratio =>
    if v.isDecimal && ratio.isNaN then .error Failure.nanComparison
    else if inUnitInterval ratio then .ok ratio
    else do throw (.ratioOutOfRange (← v.written))

def drawEach {α : Type} (g : Generator) (ratio : Decimal) : List α → List (α × Bool)
  | [] => []
  | d :: ds =>
    let (u, g) := g.draw
    (d, u.lt ratio) :: drawEach g ratio ds

theorem map_fst_drawEach {α : Type} (g : Generator) (ratio : Decimal) (ds : List α) :
    (drawEach g ratio ds).map Prod.fst = ds := by
  induction ds generalizing g with
  | nil => rfl
  | cons d ds ih => simp [drawEach, ih]

/-- Pairs each document with whether a ratio and a seed select it. -/
def mark {α : Type} (ratio : Decimal) (seed : Int) (documents : List α) : List (α × Bool) :=
  if isFullScan ratio then documents.map fun d => (d, true)
  else drawEach (Generator.ofSeed seed) ratio documents

theorem map_fst_mark {α : Type} (ratio : Decimal) (seed : Int) (ds : List α) :
    (mark ratio seed ds).map Prod.fst = ds := by
  unfold mark
  split
  · simp [Function.comp_def]
  · exact map_fst_drawEach _ _ _

def kept {α : Type} (marked : List (α × Bool)) : List α :=
  (marked.filter Prod.snd).map Prod.fst

def sample {α : Type} (ratio : Decimal) (seed : Int) (documents : List α) : List α :=
  kept (mark ratio seed documents)

theorem sample_sublist {α : Type} (ratio : Decimal) (seed : Int) (ds : List α) :
    (sample ratio seed ds).Sublist ds := by
  conv => rhs; rw [← map_fst_mark ratio seed ds]
  exact List.filter_sublist.map _

end Sampling

end TabularSchema
