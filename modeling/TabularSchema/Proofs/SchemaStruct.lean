import TabularSchema.Proofs.LeastBound
import TabularSchema.Proofs.LeastSchema
import TabularSchema.Proofs.Partition

/-!
# The inferred schema as a struct

The fields of documents are joined by name in order of first sight, while the type of a mapping
sorts its fields at once. Both come to the same struct: the schema of a collection, with its fields
sorted, is the running join of the types of the documents, also where keys of different kinds have
one text. The order of the schema is that in which the texts of the keys first come up.
-/

namespace TabularSchema

namespace Value

def keyTexts (document : Value) : List String :=
  (document.entries?.getD []).map fun e => e.1.plainText

theorem map_fst_documentFields (document : Value) :
    document.documentFields.map Prod.fst = document.keyTexts := by
  simp [documentFields, keyTexts, entryField, Function.comp_def]

theorem names_merge_documentFields (vs : List Value) :
    (FieldTypes.merge [] (vs.map documentFields).flatten).names =
      (vs.flatMap keyTexts).eraseDups := by
  rw [FieldTypes.names_merge_nil, List.map_flatten, List.map_map, List.flatMap_def]
  congr 3
  exact funext map_fst_documentFields

theorem typeOf_eq_mergedStruct {v : Value} (h : v.entries?.isSome = true) :
    v.typeOf = FieldTypes.mergedStruct v.documentFields := by
  cases v with
  | map kind entries => exact typeOf_map_eq kind entries
  | _ => cases h

section Mappings

variable {vs : List Value} (hvs : ∀ v ∈ vs, v.entries?.isSome = true)
include hvs

theorem foldl_join_mappings :
    (vs.map typeOf).foldl DataType.join (.struct []) =
      FieldTypes.mergedStruct (vs.map documentFields).flatten := by
  have hempty : (DataType.struct []).WellFormed := trivial
  have htypes := wellFormed_map_typeOf vs
  have hfields := Inference.wellFormed_flatten_documentFields vs
  refine DataType.eq_of_widensTo_iff (DataType.wellFormed_foldl_join hempty htypes)
    (FieldTypes.wellFormed_mergedStruct hfields) fun c hc => ?_
  rw [DataType.foldl_join_widensTo_iff hempty htypes hc, List.forall_mem_map,
    FieldTypes.mergedStruct_widensTo_iff hfields hc, DataType.struct_widensTo_iff]
  have hdoc : ∀ v ∈ vs, v.typeOf.WidensTo c ↔
      c = .string ∨ ∃ hs, c = .struct hs ∧
        ∀ f ∈ v.documentFields, ∃ u, (f.1, u) ∈ hs ∧ f.2.WidensTo u := by
    intro v hv
    rw [typeOf_eq_mergedStruct (hvs v hv),
      FieldTypes.mergedStruct_widensTo_iff v.wellFormed_documentFields hc]
  rw [forall₂_congr hdoc]
  constructor
  · rintro ⟨rfl | ⟨hs, rfl, _⟩, hall⟩
    · exact Or.inl rfl
    · refine Or.inr ⟨hs, rfl, fun f hf => ?_⟩
      obtain ⟨fs, hfs, hf⟩ := List.mem_flatten.1 hf
      obtain ⟨v, hv, rfl⟩ := List.mem_map.1 hfs
      rcases hall v hv with hstring | ⟨hs', hhs, hfields⟩
      · cases hstring
      · obtain rfl := DataType.struct.inj hhs
        exact hfields f hf
  · rintro (rfl | ⟨hs, rfl, hall⟩)
    · exact ⟨Or.inl rfl, fun v _ => Or.inl rfl⟩
    · refine ⟨Or.inr ⟨hs, rfl, DataType.FieldsWiden.nil hs⟩, fun v hv => Or.inr ⟨hs, rfl, ?_⟩⟩
      intro f hf
      exact hall f (List.mem_flatten.2 ⟨_, List.mem_map_of_mem hv, hf⟩)

theorem foldl_join_mappings_of_ne_nil (hne : vs ≠ []) :
    (vs.map typeOf).foldl DataType.join .null =
      (vs.map typeOf).foldl DataType.join (.struct []) := by
  obtain ⟨v, vs, rfl⟩ := List.exists_cons_of_ne_nil hne
  have hv := hvs v List.mem_cons_self
  have hempty : (DataType.struct []).join v.typeOf = v.typeOf := by
    rw [typeOf_eq_mergedStruct hv]
    exact DataType.join_struct_struct _ _
  rw [List.map_cons, List.foldl_cons, List.foldl_cons, hempty, DataType.null_join]

theorem any_isNull_mappings : vs.any isNull = false := by
  rw [List.any_eq_false]
  intro v hv hnull
  have hmapping := hvs v hv
  cases v with
  | map kind entries => cases hnull
  | _ => cases hmapping

theorem typeOf_list_mappings (hne : vs ≠ []) :
    typeOf (.list vs) = .array ((vs.map typeOf).foldl DataType.join (.struct [])) false := by
  rw [typeOf_seq_eq, any_isNull_mappings hvs, foldl_join_mappings_of_ne_nil hvs hne]

end Mappings

end Value

theorem Decoder.mapM_plain (docs : List Value) : docs.mapM Decoder.plain = .ok docs := by
  induction docs with
  | nil => rfl
  | cons d docs ih =>
    rw [List.mapM_cons, ih]
    rfl

theorem Decoder.mapM_fields {decoder : Decoder} {docs vs : List Value}
    (h : docs.mapM decoder = .ok vs) :
    docs.mapM decoder.fields = vs.mapM Value.observations := by
  induction docs generalizing vs with
  | nil =>
    obtain rfl := Except.ok.inj h
    rfl
  | cons d docs ih =>
    rw [List.mapM_cons] at h
    cases hd : decoder d with
    | error e =>
      rw [hd] at h
      cases h
    | ok v =>
      cases hdocs : docs.mapM decoder with
      | error e =>
        rw [hd, hdocs] at h
        cases h
      | ok ws =>
        rw [hd, hdocs] at h
        obtain rfl := Except.ok.inj h
        rw [List.mapM_cons, List.mapM_cons, Decoder.fields_of_decoded hd, ih hdocs]

namespace Inference

section FullScan

variable {p : Plan} {r : Decimal} (hr : Sampling.acceptRatio p.ratio = .ok r)
  (hfull : Sampling.isFullScan r = true) {docs : List Value}
include hr hfull

/-- The schema of documents that decode to mappings holds all their fields, in order of first
sight. -/
theorem infer_mappings {vs : List Value} (hdecoded : docs.mapM p.decoder = .ok vs)
    (hvs : ∀ v ∈ vs, v.entries?.isSome = true) :
    ((∀ v ∈ vs, v.Named) ∧ infer p (.list docs) =
      .ok ⟨_, FieldTypes.Distinct.nil.merge (vs.map Value.documentFields).flatten⟩) ∨
    (¬ (∀ v ∈ vs, v.Named) ∧ ∃ fault, infer p (.list docs) = .error (.textless fault)) := by
  rw [infer_list_of_isFullScan hr hfull, aggregate_eq, Decoder.mapM_fields hdecoded]
  rcases mapM_ok_or_error fun v hv => Value.observations_of_mapping (hvs v hv) with
    ⟨hnamed, hfields⟩ | ⟨hnot, fault, hfields⟩
  · rw [hfields]
    exact Or.inl ⟨hnamed, Schema.ofFieldTypes_of_distinct _⟩
  · rw [hfields]
    exact Or.inr ⟨hnot, fault, rfl⟩

theorem infer_of_first_failure {before after : List Value} {d : Value} {e : Failure}
    (hdocs : docs = before ++ d :: after) (hbefore : ∀ d' ∈ before, p.decoder.Reads d')
    (hd : p.decoder.fields d = .error e) : infer p (.list docs) = .error e := by
  rw [infer_list_of_isFullScan hr hfull, hdocs, aggregate_of_first_failure hbefore hd]
  rfl

end FullScan

/-- A full scan of documents that decode to mappings gives the schema whose struct is the running
join of the types of the mappings, with the texts of all keys in order of first sight. It fails as
the first document that does not decode, that is no mapping or that has a key without a text. -/
theorem infer_asStruct_eq_joinTypes (p : Plan) (r : Decimal)
    (hr : Sampling.acceptRatio p.ratio = .ok r) (hfull : Sampling.isFullScan r = true)
    (docs : List Value) :
    let result := infer p (.list docs)
    (∀ vs, docs.mapM p.decoder = .ok vs → (∀ v ∈ vs, v.entries?.isSome = true) →
      ((∀ v ∈ vs, v.Named) →
        ∃ s, result = .ok s ∧ Value.joinTypes (.struct []) vs = .ok s.asStruct ∧
          (vs ≠ [] → Value.typeOfElements (.list vs) = .ok (.array s.asStruct false)) ∧
          s.names = (vs.flatMap Value.keyTexts).eraseDups) ∧
      (¬ (∀ v ∈ vs, v.Named) →
        (∃ fault, result = .error (.textless fault)) ∧
          ∃ fault, Value.joinTypes (.struct []) vs = .error (.textless fault))) ∧
    (∀ before d after, docs = before ++ d :: after → (∀ d' ∈ before, p.decoder.Reads d') →
      (∀ e, p.decoder d = .error e → result = .error e) ∧
      (∀ v, p.decoder d = .ok v → v.entries? = none → result = .error (.notMapping v.kindName)) ∧
      (∀ v, p.decoder d = .ok v → v.entries?.isSome = true → ¬ v.Named →
        ∃ fault, result = .error (.textless fault))) := by
  intro result
  constructor
  · intro vs hdecoded hvs
    have hjoined := Value.joinTypes_ok_or_textless (.struct []) vs
    rcases infer_mappings hr hfull hdecoded hvs with ⟨hnamed, hresult⟩ | ⟨hnot, hresult⟩
    · refine ⟨fun _ => ⟨_, hresult, ?_, fun hne => ?_, ?_⟩, fun hnot => absurd hnamed hnot⟩
      · obtain ⟨_, hjoin⟩ := hjoined.resolve_right fun h => h.1 hnamed
        rw [hjoin, Value.foldl_join_mappings hvs]
        rfl
      · have hlist : (Value.list vs).Named := Value.named_seq_iff.2 hnamed
        obtain ⟨_, htype⟩ :=
          (Value.inferType_ok_or_textless (.list vs)).resolve_right fun h => h.1 hlist
        rw [Value.typeOf_list_mappings hvs hne, Value.foldl_join_mappings hvs] at htype
        exact htype
      · exact Value.names_merge_documentFields vs
    · obtain ⟨_, hjoin⟩ := hjoined.resolve_left fun h => hnot h.1
      exact ⟨fun hnamed => absurd hnamed hnot, fun _ => ⟨hresult, hjoin⟩⟩
  · intro before d after hdocs hbefore
    refine ⟨fun e hd => ?_, fun v hd hv => ?_, fun v hd hv hnot => ?_⟩
    · exact infer_of_first_failure hr hfull hdocs hbefore (Decoder.fields_of_decode_error hd)
    · exact infer_of_first_failure hr hfull hdocs hbefore (Decoder.fields_of_not_mapping hd hv)
    · obtain ⟨fault, hfault⟩ := Decoder.fields_of_not_named hd hv hnot
      exact ⟨fault, infer_of_first_failure hr hfull hdocs hbefore hfault⟩

/-- An integer key and a text key of one name in two documents, and then a document that is no
mapping. -/
theorem infer_asStruct_eq_joinTypes_colliding :
    let d₁ : Value := .map .plain [(.text "z", .null), (.int .plain 1, .int .plain 1)]
    let d₂ : Value := .map .plain [(.text "1", .float .double .zero), (.bool true, .text "x")]
    (∃ s, infer Plan.full (.list [d₁, d₂]) = .ok s ∧
      Value.joinTypes (.struct []) [d₁, d₂] = .ok s.asStruct ∧
      s.asStruct = .struct [("1", .double), ("True", .string), ("z", .null)] ∧
      s.names = ["z", "1", "True"]) ∧
    infer Plan.full (.list [d₁, d₂, .int .plain 5, .null]) = .error (.notMapping "int") := by
  intro d₁ d₂
  constructor
  · obtain ⟨hmappings, _⟩ :=
      infer_asStruct_eq_joinTypes Plan.full _ acceptRatio_full isFullScan_one [d₁, d₂]
    obtain ⟨s, hs, hjoin, _, hnames⟩ := (hmappings [d₁, d₂] rfl (by decide)).1 (by decide)
    have hstruct : Value.joinTypes (.struct []) [d₁, d₂] =
        .ok (.struct [("1", .double), ("True", .string), ("z", .null)]) := by decide +kernel
    rw [hjoin] at hstruct
    exact ⟨s, hs, hjoin, Except.ok.inj hstruct, hnames.trans (by decide +kernel)⟩
  · obtain ⟨_, hfirst⟩ := infer_asStruct_eq_joinTypes Plan.full _ acceptRatio_full isFullScan_one
      [d₁, d₂, .int .plain 5, .null]
    have hread : ∀ d ∈ [d₁, d₂], Plan.full.decoder.Reads d :=
      List.forall_mem_cons.2 ⟨⟨d₁, rfl, rfl, by decide⟩,
        List.forall_mem_singleton.2 ⟨d₂, rfl, rfl, by decide⟩⟩
    exact (hfirst [d₁, d₂] _ [.null] rfl hread).2.1 _ rfl rfl

/-- The failure of a mapping with a key without a text hides that of a later document. -/
theorem infer_fails_before_not_mapping :
    let document : Value := .map .plain [(.wrapped .fixed [0], .int .plain 1)]
    let other : Value := .int .plain 5
    document.entries?.isSome = true ∧ other.entries? = none ∧
      infer Plan.full (.list [document, other]) = .error (.textless (.notText "bytes")) ∧
      Failure.textless (.notText "bytes") ≠ .notMapping other.kindName := by
  refine ⟨rfl, rfl, ?_, ?_⟩
  · decide +kernel
  · decide

end Inference

end TabularSchema
