import TabularSchema.Proofs.Partition
import TabularSchema.Proofs.RatioSafety
import TabularSchema.Proofs.SampleGrowth

/-!
# Where a ratio is refused

A ratio is checked when a collection is sampled, which is before the first document is decoded. A
collection in partitions is sampled one partition at a time, so a ratio outside the unit interval is
refused there as it is for all documents together if there is a partition, empty or not. With no
partition nothing is sampled, and every ratio gives the empty schema. A ratio in the unit interval
is refused nowhere.
-/

namespace TabularSchema

namespace Sampling

/-- The failure of a number that is no ratio. A decimal NaN fails when it is compared; any other
number is named as out of range, by its text if it has one. -/
def refusal (ratio : Value) (r : Decimal) : Failure :=
  if ratio.isDecimal && r.isNaN then Failure.nanComparison
  else
    match ratio.written with
    | .ok text => .ratioOutOfRange text
    | .error e => e

theorem acceptRatio_of_outside {ratio : Value} {r : Decimal} (hr : ratio.number? = some r)
    (houtside : ¬ inUnitInterval r = true) : acceptRatio ratio = .error (refusal ratio r) := by
  unfold acceptRatio refusal
  rw [hr]
  dsimp only
  rw [if_neg houtside]
  split
  · rfl
  · cases ratio.written <;> rfl

theorem acceptRatio_of_inside {ratio : Value} {r : Decimal} (hr : ratio.number? = some r)
    (hinside : inUnitInterval r = true) : acceptRatio ratio = .ok r := by
  rw [inUnitInterval, Bool.and_eq_true] at hinside
  exact acceptRatio_eq_ok hr hinside.1 hinside.2

end Sampling

namespace Inference

section Refused

variable {p : Plan} {e : Failure} (hr : Sampling.acceptRatio p.ratio = .error e)
include hr

theorem infer_of_refused (documents : Value) : infer p documents = .error e := by
  rw [infer, sample_of_refused hr]
  rfl

theorem inferPartitioned_of_refused {partitions part : Value} {parts : List Value}
    (h : partitions.elements = .ok (part :: parts)) (concurrent : Bool) :
    inferPartitioned p concurrent partitions = .error e := by
  unfold inferPartitioned
  rw [h]
  dsimp only [bind, Except.bind]
  rw [aggregateTogether_of_refused hr, aggregateInTurn_of_refused hr, ite_self]

end Refused

theorem inferPartitioned_nil (p : Plan) (concurrent : Bool) :
    inferPartitioned p concurrent (.list []) = .ok Schema.empty := by
  have htogether : aggregateTogether p [] = .ok [] := rfl
  have hturn : aggregateInTurn p [] = .ok [] := rfl
  unfold inferPartitioned
  dsimp only [Value.list, Value.elements, bind, Except.bind, withSeeds]
  rw [htogether, hturn, ite_self]
  rfl

/-- If the failure is one of a ratio, then it is the decoder's for one of the documents. -/
def RatioFaultDecoded (decoder : Decoder) (documents : List Value) (e : Failure) : Prop :=
  e.FaultsRatio → ∃ d ∈ documents, decoder d = .error e

theorem ratioFaultDecoded_aggregate (decoder : Decoder) {documents examined : List Value}
    (h : examined ⊆ documents) :
    FailsWithin (RatioFaultDecoded decoder documents)
      (aggregate decoder examined >>= Schema.ofFieldTypes) := by
  refine FailsWithin.bind ((failsWithin_aggregate decoder examined).mono ?_) fun fs => ?_
  · rintro e (⟨d, hd, hdecoded⟩ | hdocument) hfault
    · exact ⟨d, h hd, hdecoded⟩
    · exact absurd hfault hdocument.not_faultsRatio
  · exact (Schema.ratioFree_ofFieldTypes fs).mono fun e hfree hfault => absurd hfault hfree

theorem flatten_samples_subset (r : Decimal) (seed : Int) (parts : List (List Value)) :
    (samples r seed parts).flatten ⊆ parts.flatten := by
  intro d hd
  obtain ⟨ds, hds, hd⟩ := List.mem_flatten.1 hd
  obtain ⟨i, hi, rfl⟩ := List.mem_mapIdx.1 hds
  exact List.mem_flatten.2 ⟨_, List.getElem_mem hi, (Sampling.sample_sublist _ _ _).subset hd⟩

/-- A number outside the unit interval, be it infinite or a NaN, is refused as a ratio for documents
in partitions with the same failure as for all of them together, and without a look at what the
decoder makes of any of them; only where there are no partitions at all it is not. A ratio in the
unit interval is refused neither way, unless it is the decoder that does so for a document. -/
theorem ratio_refused_alike (ratio : Value) (r : Decimal) (hr : ratio.number? = some r)
    (seed : Int) (decoder : Decoder) (concurrent : Bool) (parts : List (List Value)) :
    let whole := infer ⟨ratio, seed, decoder⟩ (.list parts.flatten)
    let split := inferPartitioned ⟨ratio, seed, decoder⟩ concurrent (.list (parts.map .list))
    let inside := ∃ q, r.toRat? = some q ∧ 0 ≤ q ∧ q ≤ 1
    (¬ inside → whole = .error (Sampling.refusal ratio r) ∧
      (parts ≠ [] → split = .error (Sampling.refusal ratio r)) ∧
      (parts = [] → split = .ok Schema.empty)) ∧
    (inside → FailsWithin (RatioFaultDecoded decoder parts.flatten) whole ∧
      FailsWithin (RatioFaultDecoded decoder parts.flatten) split) := by
  intro whole split inside
  have hinterval : Sampling.inUnitInterval r = true ↔ inside := Sampling.inUnitInterval_iff
  refine ⟨fun houtside => ?_, fun hinside => ?_⟩
  · have hrefused : Sampling.acceptRatio ratio = .error (Sampling.refusal ratio r) :=
      Sampling.acceptRatio_of_outside hr (hinterval.not.2 houtside)
    refine ⟨infer_of_refused (p := ⟨ratio, seed, decoder⟩) hrefused _, fun hparts => ?_, ?_⟩
    · obtain ⟨ds, rest, rfl⟩ := List.exists_cons_of_ne_nil hparts
      exact inferPartitioned_of_refused (p := ⟨ratio, seed, decoder⟩) hrefused rfl concurrent
    · rintro rfl
      exact inferPartitioned_nil _ concurrent
  · have haccepted : Sampling.acceptRatio ratio = .ok r :=
      Sampling.acceptRatio_of_inside hr (hinterval.2 hinside)
    constructor
    · have hwhole : whole = _ := infer_list (p := ⟨ratio, seed, decoder⟩) haccepted parts.flatten
      rw [hwhole]
      exact ratioFaultDecoded_aggregate decoder (Sampling.sample_sublist _ _ _).subset
    · have hsplit : split = _ :=
        inferPartitioned_eq (p := ⟨ratio, seed, decoder⟩) haccepted concurrent parts
      rw [hsplit]
      exact ratioFaultDecoded_aggregate decoder (flatten_samples_subset r seed parts)

/-- A NaN is refused for an empty partition before one whose document cannot be decoded. -/
theorem ratio_refused_alike_nan :
    let p : Plan := ⟨.float .double .nan, 7, fun _ => .error .malformedJson⟩
    infer p (.list [.null]) = .error (.ratioOutOfRange "nan") ∧
      inferPartitioned p false (.list [.list [], .list [.null]]) =
        .error (.ratioOutOfRange "nan") ∧
      inferPartitioned p true (.list [.list [], .list [.null]]) =
        .error (.ratioOutOfRange "nan") := by
  intro p
  have houtside : ¬ ∃ q, (Binary64.toDecimal .nan).toRat? = some q ∧ 0 ≤ q ∧ q ≤ 1 := by
    rintro ⟨q, hq, -⟩
    cases hq
  obtain ⟨hturn, -⟩ := ratio_refused_alike (.float .double .nan) _ rfl 7
    (fun _ => .error .malformedJson) false [[], [.null]]
  obtain ⟨htogether, -⟩ := ratio_refused_alike (.float .double .nan) _ rfl 7
    (fun _ => .error .malformedJson) true [[], [.null]]
  obtain ⟨hwhole, hinTurn, -⟩ := hturn houtside
  obtain ⟨-, hconcurrent, -⟩ := htogether houtside
  exact ⟨hwhole, hinTurn (by simp), hconcurrent (by simp)⟩

/-- One and a half is no ratio for no documents, but it is one for no partitions. -/
theorem ratio_unchecked_without_partitions :
    let p : Plan := ⟨.float .double (Binary64.ofRatio false 3 2), Sampling.defaultSeed, .plain⟩
    let parts : List (List Value) := []
    infer p (.list parts.flatten) = .error (.ratioOutOfRange "1.5") ∧
      inferPartitioned p false (.list (parts.map .list)) = .ok Schema.empty := by
  intro p parts
  constructor
  · decide +kernel
  · rfl

end Inference

end TabularSchema
