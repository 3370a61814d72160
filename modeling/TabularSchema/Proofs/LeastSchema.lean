import TabularSchema.Proofs.Aggregation

/-!
# The inferred schema is the least that admits the documents

A schema admits a document if each of its keys names a field whose type admits the value under the
key. Where every key inside the documents names a field, a full scan gives a schema that admits all
of them, and every other such schema has its fields at types they widen to. A key without a text of
its own makes the inference fail, also where a schema would admit the document.
-/

namespace TabularSchema

namespace Schema

def WellFormed (s : Schema) : Prop := FieldTypes.WellFormed s.fields

/-- Each key of the document names a field whose type admits the value under the key. -/
def Admits (s : Schema) (document : Value) : Prop := (DataType.struct s.fields).Admits document

theorem admits_map_iff {s : Schema} (hs : s.WellFormed) {kind : MapKind}
    {entries : List (Value × Value)} (hnamed : (Value.map kind entries).Named) :
    s.Admits (.map kind entries) ↔
      DataType.FieldsWiden (entries.map Value.entryField) s.fields := by
  rw [Value.named_map_iff] at hnamed
  have htypes : ∀ e ∈ entries, ∀ f ∈ s.fields,
      f.2.Admits e.2 ↔ e.2.typeOf.WidensTo f.2 :=
    fun e he f hf => DataType.admits_iff (hnamed e he).2 (hs f hf)
  rw [← DataType.admitsEntries_iff_fieldsWiden (fun e he => (hnamed e he).1) htypes, Admits,
    DataType.admits_map_iff]
  constructor
  · rintro (h | ⟨fs, hfs, h⟩)
    · cases h
    · obtain rfl := DataType.struct.inj hfs
      exact h
  · intro h
    exact Or.inr ⟨_, rfl, h⟩

end Schema

namespace Inference

theorem wellFormed_flatten_documentFields (docs : List Value) :
    FieldTypes.WellFormed (docs.map Value.documentFields).flatten := by
  intro f hf
  obtain ⟨fs, hfs, hf⟩ := List.mem_flatten.1 hf
  obtain ⟨d, _, rfl⟩ := List.mem_map.1 hfs
  exact d.wellFormed_documentFields f hf

/-- A schema admits named documents exactly when the merge of their fields widens to its fields. -/
theorem admits_all_iff {s : Schema} (hs : s.WellFormed) {docs : List Value}
    (hdocs : ∀ d ∈ docs, d.entries?.isSome = true) (hnamed : ∀ d ∈ docs, d.Named) :
    (∀ d ∈ docs, s.Admits d) ↔ DataType.FieldsWiden
      (FieldTypes.merge [] (docs.map Value.documentFields).flatten) s.fields := by
  have hdoc : ∀ d ∈ docs, s.Admits d ↔ DataType.FieldsWiden d.documentFields s.fields := by
    intro d hd
    have hmapping := hdocs d hd
    cases d with
    | map kind entries => exact Schema.admits_map_iff hs (hnamed _ hd)
    | _ => cases hmapping
  rw [FieldTypes.fieldsWiden_merge_iff FieldTypes.Distinct.nil FieldTypes.WellFormed.nil
      (wellFormed_flatten_documentFields docs) s.distinct hs, DataType.fieldsWiden_flatten_iff,
    List.forall_mem_map, forall₂_congr hdoc]
  simp [DataType.FieldsWiden.nil]

/-- A full scan of mappings gives the least schema that admits all of them, unless a key inside one
has no text: then it fails. -/
theorem infer_least_admitting (ratio : Value) (r : Decimal) (seed : Int)
    (hr : Sampling.acceptRatio ratio = .ok r) (hfull : Sampling.isFullScan r = true)
    (docs : List Value) (hdocs : ∀ d ∈ docs, d.entries?.isSome = true) :
    ((∀ d ∈ docs, d.Named) →
      ∃ s, infer ⟨ratio, seed, .plain⟩ (.list docs) = .ok s ∧ s.WellFormed ∧
        (∀ d ∈ docs, s.Admits d) ∧
        ∀ s' : Schema, s'.WellFormed → (∀ d ∈ docs, s'.Admits d) →
          ∀ f ∈ s.fields, ∃ u, (f.1, u) ∈ s'.fields ∧ f.2.WidensTo u) ∧
    (¬ (∀ d ∈ docs, d.Named) →
      ∃ fault, infer ⟨ratio, seed, .plain⟩ (.list docs) = .error (.textless fault)) := by
  rw [infer_list_of_isFullScan hr hfull, aggregate_eq]
  have hplain : Decoder.plain.fields = Value.observations := rfl
  rw [hplain]
  rcases mapM_ok_or_error fun d hd => Value.observations_of_mapping (hdocs d hd) with
    ⟨hnamed, hfields⟩ | ⟨hnot, fault, hfields⟩
  · refine ⟨fun _ => ?_, fun hnot => absurd hnamed hnot⟩
    have hwf : FieldTypes.WellFormed
        (FieldTypes.merge [] (docs.map Value.documentFields).flatten) :=
      FieldTypes.WellFormed.nil.merge (wellFormed_flatten_documentFields docs)
    have hd := FieldTypes.Distinct.nil.merge (docs.map Value.documentFields).flatten
    rw [hfields]
    refine ⟨⟨_, hd⟩, Schema.ofFieldTypes_of_distinct hd, hwf, ?_, ?_⟩
    · exact (admits_all_iff (s := ⟨_, hd⟩) hwf hdocs hnamed).2 (DataType.FieldsWiden.refl _)
    · intro s' hs' hadmits
      exact DataType.fieldsWiden_iff.1 ((admits_all_iff hs' hdocs hnamed).1 hadmits)
  · refine ⟨fun hnamed => absurd hnamed hnot, fun _ => ⟨fault, ?_⟩⟩
    rw [hfields]
    rfl

theorem infer_least_admitting_nested :
    let docs : List Value :=
      [.map .plain [(.text "n", .int .plain 1), (.text "xs", .list [.null])],
        .map .plain [(.text "xs", .list [.map .plain [(.int .plain 7, .bool true)]]),
          (.text "n", .int .plain 1099511627776)]]
    ∃ s, infer Plan.full (.list docs) = .ok s ∧
      s.fields = [("n", .long), ("xs", .array (.struct [("7", .boolean)]) true)] ∧
      (∀ d ∈ docs, s.Admits d) ∧
      ∀ s' : Schema, s'.WellFormed → (∀ d ∈ docs, s'.Admits d) →
        ∀ f ∈ s.fields, ∃ u, (f.1, u) ∈ s'.fields ∧ f.2.WidensTo u := by
  intro docs
  have hnamed : ∀ d ∈ docs, d.Named := by decide
  obtain ⟨s, hs, _, hadmits, hleast⟩ :=
    (infer_least_admitting _ _ Plan.full.seed acceptRatio_full isFullScan_one docs (by decide)).1
      hnamed
  have hs : infer Plan.full (.list docs) = .ok s := hs
  have hfields : (infer Plan.full (.list docs)).map Schema.fields =
      .ok [("n", .long), ("xs", .array (.struct [("7", .boolean)]) true)] := by decide +kernel
  rw [hs] at hfields
  exact ⟨s, hs, Except.ok.inj hfields, hadmits, hleast⟩

/-- A key without a text inside a mapping: the schema with a string field admits the document, but
none is inferred. -/
theorem infer_fails_on_admitted_document :
    let document : Value :=
      .map .plain [(.text "a", .map .plain [(.wrapped .fixed [0], .int .plain 1)])]
    document.entries?.isSome = true ∧ (⟨[("a", .string)], by decide⟩ : Schema).Admits document ∧
      infer Plan.full (.list [document]) = .error (.textless (.notText "bytes")) := by
  refine ⟨rfl, ?_, ?_⟩
  · exact .struct (.cons rfl (List.mem_singleton.2 rfl) (.string _) (.nil _))
  · decide +kernel

end Inference

end TabularSchema
