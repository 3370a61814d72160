import TabularSchema.Inference
import TabularSchema.Proofs.PrincipalType
import TabularSchema.Proofs.Sequencing

/-!
# What documents add to the field types

A document either fails or adds a list of fields, `Decoder.fields`, and what an analyzer knows after
a list of documents is the merge of all these fields in their order (`aggregate_eq`). The first
document that fails decides the failure.
-/

namespace TabularSchema

namespace Value

def namedEntry (e : Value × DataType) : Except Failure Field := do
  return (← e.1.fieldName, e.2)

/-- The fields that a mapping adds, in the order of its entries. -/
def observations (document : Value) : Except Failure (List Field) := do
  let entries ← document.typedEntries
  entries.mapM namedEntry

end Value

def Decoder.fields (decoder : Decoder) (document : Value) : Except Failure (List Field) := do
  let decoded ← decoder document
  decoded.observations

namespace FieldTypes

theorem absorb_of_ok {entries : List (Value × DataType)} {gs : List Field}
    (h : entries.mapM Value.namedEntry = .ok gs) (fs : FieldTypes) :
    fs.absorb entries = (fs.merge gs, .ok ()) := by
  induction entries generalizing fs gs with
  | nil =>
    obtain rfl := Except.ok.inj h
    rfl
  | cons e entries ih =>
    obtain ⟨key, t⟩ := e
    rw [List.mapM_cons, Value.namedEntry] at h
    rw [absorb]
    cases hname : key.fieldName with
    | error e =>
      rw [hname] at h
      cases h
    | ok name =>
      cases hrest : entries.mapM Value.namedEntry with
      | error e =>
        rw [hname, hrest] at h
        cases h
      | ok rest =>
        rw [hname, hrest] at h
        obtain rfl := Except.ok.inj h
        exact ih hrest _

theorem absorb_of_error {entries : List (Value × DataType)} {e : Failure}
    (h : entries.mapM Value.namedEntry = .error e) (fs : FieldTypes) :
    (fs.absorb entries).2 = .error e := by
  induction entries generalizing fs with
  | nil => cases h
  | cons entry entries ih =>
    obtain ⟨key, t⟩ := entry
    rw [List.mapM_cons, Value.namedEntry] at h
    rw [absorb]
    cases hname : key.fieldName with
    | error e' =>
      rw [hname] at h
      obtain rfl := Except.error.inj h
      rfl
    | ok name =>
      cases hrest : entries.mapM Value.namedEntry with
      | error e' =>
        rw [hname, hrest] at h
        obtain rfl := Except.error.inj h
        exact ih hrest _
      | ok rest =>
        rw [hname, hrest] at h
        cases h

end FieldTypes

namespace Value

theorem checkNamed_ok_or_textless (v : Value) :
    (v.Named ∧ v.checkNamed = .ok ()) ∨
      (¬ v.Named ∧ ∃ fault, v.checkNamed = .error (.textless fault)) := by
  induction v using inductionOn with
  | scalar v hv =>
    refine Or.inl ⟨Named.scalar hv, ?_⟩
    cases v <;> first | rfl | exact hv.elim
  | seq kind items ih =>
    rw [checkNamed, named_seq_iff]
    induction items with
    | nil => exact Or.inl ⟨by simp, rfl⟩
    | cons v items ihs =>
      obtain ⟨hv, hitems⟩ := List.forall_mem_cons.1 ih
      rw [checkEachNamed, List.forall_mem_cons]
      rcases hv with ⟨hnamed, hv⟩ | ⟨hnot, fault, hv⟩
      · rw [hv]
        rcases ihs hitems with ⟨hall, hrest⟩ | ⟨hnot, hrest⟩
        · exact Or.inl ⟨⟨hnamed, hall⟩, hrest⟩
        · exact Or.inr ⟨fun hall => hnot hall.2, hrest⟩
      · rw [hv]
        exact Or.inr ⟨fun hall => hnot hall.1, fault, rfl⟩
  | map kind entries ih =>
    rw [checkNamed, named_map_iff]
    induction entries with
    | nil => exact Or.inl ⟨by simp, rfl⟩
    | cons e entries ihs =>
      obtain ⟨hv, hentries⟩ := List.forall_mem_cons.1 ih
      rw [checkEntriesNamed, List.forall_mem_cons]
      -- The key is looked at before the value under it.
      rcases fieldName_eq_ok_or_textless e.1 with hname | ⟨fault, hname⟩
      · rw [hname]
        rcases hv with ⟨hnamed, hv⟩ | ⟨hnot, fault, hv⟩
        · rw [hv]
          rcases ihs hentries with ⟨hall, hrest⟩ | ⟨hnot, hrest⟩
          · exact Or.inl ⟨⟨⟨rfl, hnamed⟩, hall⟩, hrest⟩
          · exact Or.inr ⟨fun hall => hnot hall.2, hrest⟩
        · rw [hv]
          exact Or.inr ⟨fun hall => hnot hall.1.2, fault, rfl⟩
      · rw [hname]
        exact Or.inr ⟨fun hall => absurd hall.1.1 (by simp), fault, rfl⟩

theorem isOk_checkNamed_iff (v : Value) : v.checkNamed.isOk = true ↔ v.Named := by
  rcases v.checkNamed_ok_or_textless with ⟨hnamed, h⟩ | ⟨hnot, fault, h⟩
  · rw [h]
    exact iff_of_true rfl hnamed
  · rw [h]
    exact iff_of_false Bool.false_ne_true hnot

instance : DecidablePred Named := fun v => decidable_of_iff _ v.isOk_checkNamed_iff

def typedPairs (entries : List (Value × Value)) : List (Value × DataType) :=
  entries.map fun e => (e.1, e.2.typeOf)

theorem typedEntries_map (kind : MapKind) (entries : List (Value × Value)) :
    ((∀ e ∈ entries, e.2.Named) ∧
      (Value.map kind entries).typedEntries = .ok (typedPairs entries)) ∨
    (¬ (∀ e ∈ entries, e.2.Named) ∧
      ∃ fault, (Value.map kind entries).typedEntries = .error (.textless fault)) := by
  refine mapM_ok_or_error fun e _ => ?_
  rcases e.2.checkNamed_ok_or_textless with ⟨hnamed, hv⟩ | ⟨hnot, fault, hv⟩
  · refine Or.inl ⟨hnamed, ?_⟩
    rw [inferType, hv]
    rfl
  · refine Or.inr ⟨hnot, fault, ?_⟩
    rw [inferType, hv]
    rfl

theorem mapM_namedEntry_typedPairs (entries : List (Value × Value)) :
    ((∀ e ∈ entries, e.1.fieldName = .ok e.1.plainText) ∧
      (typedPairs entries).mapM namedEntry = .ok (entries.map entryField)) ∨
    (¬ (∀ e ∈ entries, e.1.fieldName = .ok e.1.plainText) ∧
      ∃ fault, (typedPairs entries).mapM namedEntry = .error (.textless fault)) := by
  rw [typedPairs, List.mapM_map]
  refine mapM_ok_or_error fun e _ => ?_
  rcases fieldName_eq_ok_or_textless e.1 with hname | ⟨fault, hname⟩
  · refine Or.inl ⟨hname, ?_⟩
    rw [Function.comp_apply, namedEntry, hname]
    rfl
  · refine Or.inr ⟨by simp [hname], fault, ?_⟩
    rw [Function.comp_apply, namedEntry, hname]
    rfl

theorem observations_map (kind : MapKind) (entries : List (Value × Value)) :
    ((Value.map kind entries).Named ∧
      (Value.map kind entries).observations = .ok (entries.map entryField)) ∨
    (¬ (Value.map kind entries).Named ∧
      ∃ fault, (Value.map kind entries).observations = .error (.textless fault)) := by
  rw [named_map_iff, observations]
  rcases typedEntries_map kind entries with ⟨htyped, ht⟩ | ⟨hnot, fault, ht⟩
  · rw [ht]
    rcases mapM_namedEntry_typedPairs entries with ⟨hnamed, hn⟩ | ⟨hnot, fault, hn⟩
    · exact Or.inl ⟨fun e he => ⟨hnamed e he, htyped e he⟩, hn⟩
    · exact Or.inr ⟨fun h => hnot fun e he => (h e he).1, fault, hn⟩
  · rw [ht]
    exact Or.inr ⟨fun h => hnot fun e he => (h e he).2, fault, rfl⟩

def documentFields (document : Value) : List Field :=
  (document.entries?.getD []).map entryField

theorem wellFormed_documentFields (document : Value) :
    FieldTypes.WellFormed document.documentFields := wellFormed_entryFields _

/-- A mapping adds a field for each entry if all keys inside it name fields, and fails otherwise. -/
theorem observations_of_mapping {v : Value} (h : v.entries?.isSome = true) :
    (v.Named ∧ v.observations = .ok v.documentFields) ∨
      (¬ v.Named ∧ ∃ fault, v.observations = .error (.textless fault)) := by
  cases v with
  | map kind entries => exact observations_map kind entries
  | _ => cases h

theorem observations_of_not_mapping {v : Value} (h : v.entries? = none) :
    v.observations = .error (.notMapping v.kindName) := by
  rw [observations, typedEntries, h]
  rfl

theorem wellFormed_observations {v : Value} {gs : List Field} (h : v.observations = .ok gs) :
    FieldTypes.WellFormed gs := by
  cases hv : v.entries? with
  | none =>
    rw [observations_of_not_mapping hv] at h
    cases h
  | some entries =>
    rcases observations_of_mapping (Option.isSome_of_eq_some hv) with ⟨_, hok⟩ | ⟨_, fault, herror⟩
    · rw [hok] at h
      obtain rfl := Except.ok.inj h
      exact v.wellFormed_documentFields
    · rw [herror] at h
      cases h

end Value

namespace Decoder

variable {decoder : Decoder} {d v : Value}

/-- The document decodes to a mapping in which all keys name fields. -/
def Reads (decoder : Decoder) (document : Value) : Prop :=
  ∃ v, decoder document = .ok v ∧ v.entries?.isSome = true ∧ v.Named

theorem fields_eq (decoder : Decoder) (document : Value) :
    decoder.fields document =
      (decoder document >>= Value.typedEntries) >>= fun es => es.mapM Value.namedEntry := by
  rw [bind_assoc]
  rfl

theorem fields_of_decode_error {e : Failure} (h : decoder d = .error e) :
    decoder.fields d = .error e := by
  rw [fields, h]
  rfl

theorem fields_of_decoded (h : decoder d = .ok v) : decoder.fields d = v.observations := by
  rw [fields, h]
  rfl

theorem fields_of_not_mapping (h : decoder d = .ok v) (hv : v.entries? = none) :
    decoder.fields d = .error (.notMapping v.kindName) := by
  rw [fields_of_decoded h, Value.observations_of_not_mapping hv]

theorem fields_of_not_named (h : decoder d = .ok v) (hv : v.entries?.isSome = true)
    (hnot : ¬ v.Named) : ∃ fault, decoder.fields d = .error (.textless fault) := by
  rw [fields_of_decoded h]
  rcases Value.observations_of_mapping hv with ⟨hnamed, _⟩ | ⟨_, herror⟩
  · exact absurd hnamed hnot
  · exact herror

theorem Reads.fields_eq_ok (h : decoder.Reads d) : ∃ gs, decoder.fields d = .ok gs := by
  obtain ⟨v, hv, hmapping, hnamed⟩ := h
  rw [fields_of_decoded hv]
  rcases Value.observations_of_mapping hmapping with ⟨_, hok⟩ | ⟨hnot, _⟩
  · exact ⟨_, hok⟩
  · exact absurd hnamed hnot

theorem wellFormed_fields {gs : List Field} (h : decoder.fields d = .ok gs) :
    FieldTypes.WellFormed gs := by
  cases hd : decoder d with
  | error e =>
    rw [fields_of_decode_error hd] at h
    cases h
  | ok v =>
    rw [fields_of_decoded hd] at h
    exact Value.wellFormed_observations h

end Decoder

namespace Analyzer

theorem add_of_ok {a : Analyzer} {document : Value} {gs : List Field}
    (h : a.decoder.fields document = .ok gs) :
    a.add document = (⟨a.decoder, a.fieldTypes.merge gs, a.documentCount + 1⟩, .ok ()) := by
  rw [Decoder.fields_eq] at h
  rw [add]
  cases hes : a.decoder document >>= Value.typedEntries with
  | error e =>
    rw [hes] at h
    cases h
  | ok es =>
    rw [hes] at h
    simp only [addEntries, FieldTypes.absorb_of_ok h, count]

theorem add_of_error {a : Analyzer} {document : Value} {e : Failure}
    (h : a.decoder.fields document = .error e) : (a.add document).2 = .error e := by
  rw [Decoder.fields_eq] at h
  rw [add]
  cases hes : a.decoder document >>= Value.typedEntries with
  | error e' =>
    rw [hes] at h
    obtain rfl := Except.error.inj h
    rfl
  | ok es =>
    rw [hes] at h
    have habsorb : (a.fieldTypes.absorb es).2 = .error e := FieldTypes.absorb_of_error h _
    simp only [addEntries, habsorb]

/-- Adding documents merges all they add, or fails as the first of them that fails. -/
theorem addAll_eq (a : Analyzer) (documents : List Value) :
    a.addAll documents = (documents.mapM a.decoder.fields).map fun gss =>
      ⟨a.decoder, a.fieldTypes.merge gss.flatten, a.documentCount + documents.length⟩ := by
  induction documents generalizing a with
  | nil => rfl
  | cons d ds ih =>
    rw [addAll, List.mapM_cons]
    cases hd : a.decoder.fields d with
    | error e =>
      have hadd : a.add d = ((a.add d).1, .error e) := Prod.ext rfl (add_of_error hd)
      rw [hadd]
      rfl
    | ok gs =>
      rw [add_of_ok hd]
      dsimp only
      rw [ih]
      cases ds.mapM a.decoder.fields with
      | error e => rfl
      | ok gss =>
        simp [Except.map, bind, Except.bind, pure, Except.pure, FieldTypes.merge_append,
          Nat.add_assoc, Nat.add_comm 1]

end Analyzer

theorem Field.firstRepeat_eq_none {fs : List Field} {seen : List String}
    (hd : FieldTypes.Distinct fs) (hseen : ∀ n ∈ seen, n ∉ FieldTypes.names fs) :
    firstRepeat seen fs = none := by
  induction fs generalizing seen with
  | nil => rfl
  | cons f fs ih =>
    obtain ⟨hf, hfs⟩ := List.nodup_cons.1 hd
    have hnot : f.1 ∉ seen := fun h => hseen f.1 h (by simp)
    rw [firstRepeat, if_neg hnot]
    refine ih hfs fun n hn hmem => ?_
    rcases List.mem_cons.1 hn with rfl | hn
    · exact hf hmem
    · exact hseen n hn (by simp [hmem])

theorem Schema.ofFields_of_distinct {fs : FieldTypes} (hd : fs.Distinct) :
    ofFields fs = .ok ⟨fs, hd⟩ := by
  have hnone : Field.firstRepeat [] fs = none := Field.firstRepeat_eq_none hd (by simp)
  unfold ofFields
  split
  · next name h =>
    rw [hnone] at h
    cases h
  · rfl

theorem Schema.ofFieldTypes_of_distinct {fs : FieldTypes} (hd : fs.Distinct) :
    ofFieldTypes fs = .ok ⟨fs, hd⟩ := by
  rw [ofFieldTypes, ofFields_of_distinct hd]

theorem Sampling.sample_of_isFullScan {α : Type} {r : Decimal} (h : isFullScan r = true)
    (seed : Int) (documents : List α) : sample r seed documents = documents := by
  rw [sample, mark, if_pos h, kept]
  simp [List.filter_map, Function.comp_def]

namespace Inference

/-- The field types of documents are the merge of all they add, in their order. -/
theorem aggregate_eq (decoder : Decoder) (documents : List Value) :
    aggregate decoder documents =
      (documents.mapM decoder.fields).map fun gss => FieldTypes.merge [] gss.flatten := by
  rw [aggregate, Analyzer.addAll_eq]
  change Except.map _ (Except.map _ (documents.mapM decoder.fields)) = _
  cases documents.mapM decoder.fields <;> rfl

theorem sample_list {ratio : Value} {r : Decimal} (hr : Sampling.acceptRatio ratio = .ok r)
    (seed : Int) (documents : List Value) :
    sample (.list documents) ratio seed = .ok (Sampling.sample r seed documents) := by
  rw [sample, hr]
  rfl

theorem sample_of_refused {ratio : Value} {e : Failure} (h : Sampling.acceptRatio ratio = .error e)
    (documents : Value) (seed : Int) : sample documents ratio seed = .error e := by
  rw [sample, h]
  rfl

theorem infer_list {p : Plan} {r : Decimal} (hr : Sampling.acceptRatio p.ratio = .ok r)
    (documents : List Value) :
    infer p (.list documents) =
      aggregate p.decoder (Sampling.sample r p.seed documents) >>= Schema.ofFieldTypes := by
  rw [infer, sample_list hr]
  rfl

theorem acceptRatio_full : Sampling.acceptRatio Plan.full.ratio = .ok (.finite false 1 0) := by
  decide +kernel

theorem isFullScan_one : Sampling.isFullScan (.finite false 1 0) = true := by
  decide +kernel

theorem infer_list_of_isFullScan {p : Plan} {r : Decimal}
    (hr : Sampling.acceptRatio p.ratio = .ok r) (hfull : Sampling.isFullScan r = true)
    (documents : List Value) :
    infer p (.list documents) = aggregate p.decoder documents >>= Schema.ofFieldTypes := by
  rw [infer_list hr, Sampling.sample_of_isFullScan hfull]

end Inference

end TabularSchema
