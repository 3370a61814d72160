import TabularSchema.Proofs.Aggregation

/-!
# Partitions make no difference

Aggregating partitions apart and merging the results in order gives what aggregating all their
documents in one go gives, names in the same order included. A partitioned inference is therefore
the full scan of the sampled documents put one after another, and it fails as the first of them that
fails.
-/

namespace TabularSchema

namespace Inference

theorem wellFormed_of_mapM_fields {decoder : Decoder} {docs : List Value} {gss : List (List Field)}
    (h : docs.mapM decoder.fields = .ok gss) : FieldTypes.WellFormed gss.flatten := by
  intro f hf
  obtain ⟨gs, hgs, hf⟩ := List.mem_flatten.1 hf
  obtain ⟨d, _, hd⟩ := exists_of_mapM_eq_ok h gs hgs
  exact Decoder.wellFormed_fields hd f hf

theorem aggregate_flatten (decoder : Decoder) (parts : List (List Value)) :
    aggregate decoder parts.flatten =
      (parts.mapM (aggregate decoder)).map fun fss => fss.foldl FieldTypes.merge [] := by
  have hparts : parts.mapM (aggregate decoder) =
      (parts.mapM (List.mapM decoder.fields)).map
        (List.map fun gss => FieldTypes.merge [] gss.flatten) := by
    rw [← mapM_map_result]
    exact congrArg (fun f => parts.mapM f) (funext (aggregate_eq decoder))
  rw [hparts, aggregate_eq, mapM_flatten]
  cases hsss : parts.mapM (List.mapM decoder.fields) with
  | error e => rfl
  | ok gsss =>
    -- Merging is associative on well-formed types only, and those of documents are.
    have hflat : parts.flatten.mapM decoder.fields = .ok gsss.flatten := by
      rw [mapM_flatten, hsss]
      rfl
    have hwf : FieldTypes.WellFormed (gsss.map List.flatten).flatten := by
      rw [← List.flatten_flatten]
      exact wellFormed_of_mapM_fields hflat
    have hfold := FieldTypes.foldl_merge_nil FieldTypes.WellFormed.nil hwf
    rw [List.map_map, ← List.flatten_flatten] at hfold
    exact congrArg Except.ok hfold.symm

theorem aggregate_of_first_failure {decoder : Decoder} {before after : List Value} {d : Value}
    {e : Failure} (hbefore : ∀ d' ∈ before, decoder.Reads d') (hd : decoder.fields d = .error e) :
    aggregate decoder (before ++ d :: after) = .error e := by
  rw [aggregate_eq, mapM_eq_error_of_first (fun d' hd' => (hbefore d' hd').fields_eq_ok) hd]
  rfl

/-- The documents examined in each partition: partition `i` is sampled with the seed `seed + i`. -/
def samples (r : Decimal) (seed : Int) (parts : List (List Value)) : List (List Value) :=
  parts.mapIdx fun i ds => Sampling.sample r (seed + i) ds

theorem samples_of_isFullScan {r : Decimal} (hfull : Sampling.isFullScan r = true) (seed : Int)
    (parts : List (List Value)) : samples r seed parts = parts := by
  simp only [samples, Sampling.sample_of_isFullScan hfull, List.mapIdx_eq_zipIdx_map]
  simp

theorem withSeeds_map (seed : Int) (parts : List (List Value)) :
    withSeeds seed (parts.map .list) =
      (parts.mapIdx fun i ds => (seed + (i : Int), ds)).map fun part => (part.1, .list part.2) := by
  induction parts generalizing seed with
  | nil => rfl
  | cons ds parts ih =>
    have hseed (i : Nat) : seed + 1 + (i : Int) = seed + ((i + 1 : Nat) : Int) := by omega
    simp only [List.map_cons, withSeeds, ih, List.mapIdx_cons, hseed]
    simp

theorem samples_eq_map (r : Decimal) (seed : Int) (parts : List (List Value)) :
    samples r seed parts =
      (parts.mapIdx fun i ds => (seed + (i : Int), ds)).map fun part =>
        Sampling.sample r part.1 part.2 := by
  simp only [samples, List.mapIdx_eq_zipIdx_map, List.map_map, Function.comp_def]

section Refused

variable {p : Plan} {e : Failure} (hr : Sampling.acceptRatio p.ratio = .error e)
include hr

theorem aggregateTogether_of_refused (part : Value) (parts : List Value) :
    aggregateTogether p (withSeeds p.seed (part :: parts)) = .error e := by
  rw [aggregateTogether, withSeeds, List.mapM_cons, sample_of_refused hr]
  rfl

theorem aggregateInTurn_of_refused (part : Value) (parts : List Value) :
    aggregateInTurn p (withSeeds p.seed (part :: parts)) = .error e := by
  rw [aggregateInTurn, withSeeds, List.mapM_cons, hr]
  rfl

end Refused

section Partitions

variable {p : Plan} {r : Decimal} (hr : Sampling.acceptRatio p.ratio = .ok r)
include hr

theorem aggregateTogether_eq (parts : List (List Value)) :
    aggregateTogether p (withSeeds p.seed (parts.map .list)) =
      (samples r p.seed parts).mapM (aggregate p.decoder) := by
  have hsampled : (withSeeds p.seed (parts.map .list)).mapM
      (fun part => sample part.2 p.ratio part.1) = .ok (samples r p.seed parts) := by
    rw [withSeeds_map, List.mapM_map, samples_eq_map]
    simp only [Function.comp_def, sample_list hr]
    exact List.mapM_pure
  rw [aggregateTogether, hsampled]
  rfl

theorem aggregateInTurn_eq (parts : List (List Value)) :
    aggregateInTurn p (withSeeds p.seed (parts.map .list)) =
      (samples r p.seed parts).mapM (aggregate p.decoder) := by
  have hratio (xs : List (Int × Value)) : xs.mapM (fun _ => Sampling.acceptRatio p.ratio) =
      .ok (xs.map fun _ => r) := by
    rw [hr]
    exact List.mapM_pure
  rw [aggregateInTurn, hratio, samples_eq_map, withSeeds_map]
  change List.mapM _ _ = _
  rw [List.mapM_map, List.mapM_map]
  simp only [Function.comp_def, sample_list hr]
  rfl

theorem inferPartitioned_eq (concurrent : Bool) (parts : List (List Value)) :
    inferPartitioned p concurrent (.list (parts.map .list)) =
      aggregate p.decoder (samples r p.seed parts).flatten >>= Schema.ofFieldTypes := by
  rw [aggregate_flatten]
  unfold inferPartitioned
  -- Every partition can be opened, so it does not matter whether all are before the first document.
  dsimp only [Value.list, Value.elements, bind, Except.bind]
  rw [aggregateTogether_eq hr, aggregateInTurn_eq hr, ite_self]
  cases (samples r p.seed parts).mapM (aggregate p.decoder) <;> rfl

end Partitions

/-- A partitioned inference is the full scan of all sampled documents in order. It fails as the
first of them that does not decode, that is no mapping or that has a key without a text, and gives a
schema if there is none. -/
theorem inferPartitioned_eq_infer_samples (p : Plan) (r : Decimal)
    (hr : Sampling.acceptRatio p.ratio = .ok r) (concurrent : Bool) (parts : List (List Value)) :
    let docs := (samples r p.seed parts).flatten
    let result := inferPartitioned p concurrent (.list (parts.map .list))
    (∀ seed, result = infer ⟨Plan.full.ratio, seed, p.decoder⟩ (.list docs)) ∧
    (∀ before d after, docs = before ++ d :: after → (∀ d' ∈ before, p.decoder.Reads d') →
      (∀ e, p.decoder d = .error e → result = .error e) ∧
      (∀ v, p.decoder d = .ok v → v.entries? = none → result = .error (.notMapping v.kindName)) ∧
      (∀ v, p.decoder d = .ok v → v.entries?.isSome = true → ¬ v.Named →
        ∃ fault, result = .error (.textless fault))) ∧
    ((∀ d ∈ docs, p.decoder.Reads d) → ∃ s, result = .ok s) ∧
    (Sampling.isFullScan r = true → result = infer p (.list parts.flatten)) := by
  intro docs result
  have hresult : result = aggregate p.decoder docs >>= Schema.ofFieldTypes :=
    inferPartitioned_eq hr concurrent parts
  refine ⟨fun seed => ?_, fun before d after hdocs hbefore => ?_, fun hreads => ?_, fun hfull => ?_⟩
  · rw [hresult]
    exact (infer_list_of_isFullScan (p := ⟨_, seed, p.decoder⟩) acceptRatio_full isFullScan_one
      docs).symm
  · have hfails (e : Failure) (hd : p.decoder.fields d = .error e) : result = .error e := by
      rw [hresult, hdocs, aggregate_of_first_failure hbefore hd]
      rfl
    refine ⟨fun e hd => hfails e (Decoder.fields_of_decode_error hd),
      fun v hd hv => hfails _ (Decoder.fields_of_not_mapping hd hv), fun v hd hv hnot => ?_⟩
    obtain ⟨fault, hfault⟩ := Decoder.fields_of_not_named hd hv hnot
    exact ⟨fault, hfails _ hfault⟩
  · obtain ⟨gss, hgss⟩ := mapM_eq_ok_of_forall fun d hd => (hreads d hd).fields_eq_ok
    rw [hresult, aggregate_eq, hgss]
    exact ⟨_, Schema.ofFieldTypes_of_distinct (FieldTypes.Distinct.nil.merge _)⟩
  · rw [hresult, infer_list_of_isFullScan hr hfull]
    simp only [docs, samples_of_isFullScan hfull]

theorem inferPartitioned_eq_infer_samples_split :
    let d₁ : Value := .map .plain [(.text "b", .int .plain 1), (.text "a", .bool true)]
    let d₂ : Value := .map .plain [(.int .plain 7, .null), (.text "b", .float .single .zero)]
    inferPartitioned Plan.full true (.list [.list [d₁], .list [], .list [d₂]]) =
        infer Plan.full (.list [d₁, d₂]) ∧
      inferPartitioned Plan.full false (.list [.list [d₁, .int .plain 5], .list [d₂, .null]]) =
        .error (.notMapping "int") := by
  intro d₁ d₂
  obtain ⟨_, _, _, hfull⟩ :=
    inferPartitioned_eq_infer_samples Plan.full _ acceptRatio_full true [[d₁], [], [d₂]]
  obtain ⟨_, hfirst, _, _⟩ :=
    inferPartitioned_eq_infer_samples Plan.full _ acceptRatio_full false
      [[d₁, .int .plain 5], [d₂, .null]]
  have hdocs : (samples (.finite false 1 0) Plan.full.seed
      [[d₁, .int .plain 5], [d₂, .null]]).flatten = [d₁] ++ .int .plain 5 :: [d₂, .null] := by
    rw [samples_of_isFullScan isFullScan_one]
    rfl
  have hread : ∀ d ∈ [d₁], Plan.full.decoder.Reads d :=
    List.forall_mem_singleton.2 ⟨d₁, rfl, rfl, by decide⟩
  exact ⟨hfull isFullScan_one, (hfirst _ _ _ hdocs hread).2.1 _ rfl rfl⟩

/-- Of a mapping with a key without a text and an integer after it, the failure is that of the
mapping. -/
theorem inferPartitioned_fails_before_not_mapping :
    let document : Value := .map .plain [(.wrapped .fixed [0], .int .plain 1)]
    let other : Value := .int .plain 5
    document.entries?.isSome = true ∧ other.entries? = none ∧
      inferPartitioned Plan.full false (.list [.list [document, other]]) =
        .error (.textless (.notText "bytes")) ∧
      Failure.textless (.notText "bytes") ≠ .notMapping other.kindName := by
  refine ⟨rfl, rfl, ?_, ?_⟩
  · decide +kernel
  · decide

end Inference

end TabularSchema
