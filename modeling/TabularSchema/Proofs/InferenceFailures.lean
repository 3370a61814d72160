import TabularSchema.Proofs.Aggregation
import TabularSchema.Proofs.ItemFailures

/-!
# What can be wrong with a collection

A decoded document fails because it is no mapping or because a key inside it has no text, a raw one
also because it does not decode. Main statement: an inference, of a collection as a whole or in
partitions, fails only so, because its ratio is refused, or because it is given something that
cannot be gone through. The schema at its end never fails.
-/

namespace TabularSchema

inductive Failure.OfRatio : Failure → Prop
  | incomparable (relation left right : String) : OfRatio (.incomparable relation left right)
  | trapped (signals : List Signal) : OfRatio (.trapped signals)
  | outOfRange (text : String) : OfRatio (.ratioOutOfRange text)
  | textless (fault : TextFault) : OfRatio (.textless fault)

inductive Failure.OfDocument : Failure → Prop
  | notMapping (kind : String) : OfDocument (.notMapping kind)
  | textless (fault : TextFault) : OfDocument (.textless fault)

theorem Sampling.failsWithin_acceptRatio (ratio : Value) :
    FailsWithin Failure.OfRatio (acceptRatio ratio) := by
  unfold acceptRatio
  split
  · unfold notComparable
    split <;> exact .incomparable ..
  · split
    · exact .trapped _
    · split
      · trivial
      · rcases ratio.written_eq_ok_or_textless with h | ⟨fault, h⟩
        · rw [h]
          exact .outOfRange _
        · rw [h]
          exact .textless fault

theorem Value.failsWithin_observations (v : Value) :
    FailsWithin Failure.OfDocument v.observations := by
  cases hv : v.entries? with
  | none =>
    rw [observations_of_not_mapping hv]
    exact .notMapping _
  | some entries =>
    rcases observations_of_mapping (Option.isSome_of_eq_some hv) with ⟨_, h⟩ | ⟨_, fault, h⟩
    · rw [h]
      trivial
    · rw [h]
      exact .textless fault

/-- The failures of raw documents: those of decoding one of them, and those of a decoded one. -/
def Decoder.Faults (decoder : Decoder) (documents : List Value) (e : Failure) : Prop :=
  (∃ d ∈ documents, decoder d = .error e) ∨ e.OfDocument

theorem Decoder.failsWithin_fields (decoder : Decoder) {documents : List Value} {d : Value}
    (hd : d ∈ documents) : FailsWithin (decoder.Faults documents) (decoder.fields d) := by
  cases hdecoded : decoder d with
  | error e =>
    rw [fields_of_decode_error hdecoded]
    exact Or.inl ⟨d, hd, hdecoded⟩
  | ok v =>
    rw [fields_of_decoded hdecoded]
    exact v.failsWithin_observations.mono fun _ => Or.inr

theorem Analyzer.failsWithin_addAll (a : Analyzer) (documents : List Value) :
    FailsWithin (a.decoder.Faults documents) (a.addAll documents) := by
  rw [addAll_eq]
  exact (FailsWithin.mapM fun _ hd => a.decoder.failsWithin_fields hd).map _

namespace Inference

inductive Plan.Faults (p : Plan) : Failure → Prop
  | ratio {e : Failure} : Sampling.acceptRatio p.ratio = .error e → Faults p e
  | elements (kind : String) : Faults p (.notIterable kind)
  | document {documents : List Value} {e : Failure} : p.decoder.Faults documents e → Faults p e

variable (p : Plan)

theorem failsWithin_acceptRatio : FailsWithin p.Faults (Sampling.acceptRatio p.ratio) := by
  cases h : Sampling.acceptRatio p.ratio with
  | ok r => trivial
  | error e => exact .ratio h

theorem failsWithin_elements (v : Value) : FailsWithin p.Faults v.elements :=
  v.failsWithin_elements.mono fun _ ⟨kind, h⟩ => h ▸ .elements kind

theorem failsWithin_sample (documents : Value) (seed : Int) :
    FailsWithin p.Faults (sample documents p.ratio seed) :=
  (failsWithin_acceptRatio p).bind fun _ =>
    (failsWithin_elements p documents).bind fun _ => trivial

theorem failsWithin_aggregate (decoder : Decoder) (documents : List Value) :
    FailsWithin (decoder.Faults documents) (aggregate decoder documents) :=
  (Analyzer.failsWithin_addAll (.new decoder) documents).map _

theorem Plan.failsWithin_aggregate (documents : List Value) :
    FailsWithin p.Faults (aggregate p.decoder documents) :=
  (Inference.failsWithin_aggregate p.decoder documents).mono fun _ => .document

theorem distinct_of_aggregate {decoder : Decoder} {documents : List Value} {fs : FieldTypes}
    (h : aggregate decoder documents = .ok fs) : fs.Distinct := by
  rw [aggregate_eq] at h
  obtain ⟨gss, -, rfl⟩ := map_eq_ok_iff.1 h
  exact FieldTypes.Distinct.nil.merge _

theorem failsWithin_infer (documents : Value) : FailsWithin p.Faults (infer p documents) := by
  refine (failsWithin_sample p documents p.seed).bind fun ds => ?_
  have haggregate := p.failsWithin_aggregate ds
  cases hfs : aggregate p.decoder ds with
  | error e => exact haggregate.of_eq_error hfs
  | ok fs =>
    change FailsWithin _ (Schema.ofFieldTypes fs)
    rw [Schema.ofFieldTypes_of_distinct (distinct_of_aggregate hfs)]
    trivial

theorem distinct_foldl_merge (fss : List FieldTypes) {acc : FieldTypes} (h : acc.Distinct) :
    (fss.foldl FieldTypes.merge acc).Distinct := by
  induction fss generalizing acc with
  | nil => exact h
  | cons fs fss ih => exact ih (h.merge fs)

theorem failsWithin_inferPartitioned (concurrent : Bool) (partitions : Value) :
    FailsWithin p.Faults (inferPartitioned p concurrent partitions) := by
  refine (failsWithin_elements p partitions).bind fun parts => ?_
  have htogether : FailsWithin p.Faults (aggregateTogether p (withSeeds p.seed parts)) :=
    (FailsWithin.mapM fun part _ => failsWithin_sample p part.2 part.1).bind fun _ =>
      FailsWithin.mapM fun ds _ => p.failsWithin_aggregate ds
  have hturn : FailsWithin p.Faults (aggregateInTurn p (withSeeds p.seed parts)) :=
    (FailsWithin.mapM fun _ _ => failsWithin_acceptRatio p).bind fun _ =>
      FailsWithin.mapM fun part _ =>
        (failsWithin_sample p part.2 part.1).bind fun ds => p.failsWithin_aggregate ds
  have hschema (partials : List FieldTypes) :
      FailsWithin p.Faults (Schema.ofFieldTypes (partials.foldl FieldTypes.merge [])) := by
    rw [Schema.ofFieldTypes_of_distinct (distinct_foldl_merge partials FieldTypes.Distinct.nil)]
    trivial
  dsimp only
  split
  · exact htogether.bind hschema
  · exact hturn.bind hschema

end Inference

end TabularSchema
