import TabularSchema.Proofs.Aggregation

/-!
# Types told apart by what they widen to

A well-formed type is determined by the well-formed types it widens to. The statements below say
what a running join, the type of a sequence, the type of a mapping and a struct of merged fields
widen to. None of these conditions depends on an order or counts anything twice, so two ways to
compute a type are compared through them without following the joins.
-/

namespace TabularSchema

namespace DataType

theorem eq_of_widensTo_iff {a b : DataType} (ha : a.WellFormed) (hb : b.WellFormed)
    (h : ∀ c : DataType, c.WellFormed → (a.WidensTo c ↔ b.WidensTo c)) : a = b := by
  have hab : a.WidensTo b := (h b hb).2 (WidensTo.refl b)
  have hba : b.WidensTo a := (h a ha).1 (WidensTo.refl a)
  exact hab.antisymm ha hb hba

theorem wellFormed_foldl_join {a : DataType} {ts : List DataType} (ha : a.WellFormed)
    (hts : ∀ t ∈ ts, t.WellFormed) : (ts.foldl join a).WellFormed := by
  induction ts generalizing a with
  | nil => exact ha
  | cons t ts ih =>
    obtain ⟨ht, hts⟩ := List.forall_mem_cons.1 hts
    exact ih (ha.join ht) hts

theorem foldl_join_widensTo_iff {a c : DataType} {ts : List DataType} (ha : a.WellFormed)
    (hts : ∀ t ∈ ts, t.WellFormed) (hc : c.WellFormed) :
    (ts.foldl join a).WidensTo c ↔ a.WidensTo c ∧ ∀ t ∈ ts, t.WidensTo c := by
  induction ts generalizing a with
  | nil => simp
  | cons t ts ih =>
    obtain ⟨ht, hts⟩ := List.forall_mem_cons.1 hts
    rw [List.foldl_cons, ih (ha.join ht) hts, join_widensTo_iff ha ht hc, List.forall_mem_cons,
      and_assoc]

end DataType

namespace FieldTypes

def mergedStruct (gs : List Field) : DataType := .struct (Field.sort (merge [] gs))

theorem wellFormed_mergedStruct {gs : List Field} (hg : WellFormed gs) :
    (mergedStruct gs).WellFormed := by
  rw [mergedStruct, DataType.WellFormed, DataType.wellFormedFields_iff]
  refine ⟨Field.ascending_sort (Distinct.nil.merge gs), fun f hf => ?_⟩
  have hmerged : f ∈ merge [] gs := (Field.sort_perm _).mem_iff.1 hf
  exact WellFormed.nil.merge hg f hmerged

theorem mergedStruct_widensTo_iff {gs : List Field} (hg : WellFormed gs) {c : DataType}
    (hc : c.WellFormed) :
    (mergedStruct gs).WidensTo c ↔
      c = .string ∨ ∃ hs, c = .struct hs ∧ ∀ f ∈ gs, ∃ u, (f.1, u) ∈ hs ∧ f.2.WidensTo u := by
  rw [mergedStruct, DataType.struct_widensTo_iff]
  refine or_congr_right (exists_congr fun hs => and_congr_right ?_)
  rintro rfl
  have hhs : WellFormed hs := fun f hf => hc.of_mem hf
  rw [DataType.fieldsWiden_sort_iff,
    fieldsWiden_merge_iff Distinct.nil WellFormed.nil hg hc.distinct hhs,
    and_iff_right (DataType.FieldsWiden.nil hs), DataType.fieldsWiden_iff]

theorem mergedStruct_congr {gs hs : List Field} (hg : WellFormed gs) (hh : WellFormed hs)
    (h : ∀ f, f ∈ gs ↔ f ∈ hs) : mergedStruct gs = mergedStruct hs := by
  apply DataType.eq_of_widensTo_iff (wellFormed_mergedStruct hg) (wellFormed_mergedStruct hh)
  intro c hc
  rw [mergedStruct_widensTo_iff hg hc, mergedStruct_widensTo_iff hh hc]
  simp only [h]

end FieldTypes

namespace Value

theorem typeOf_seq_widensTo_iff {kind : SeqKind} {items : List Value} {c : DataType}
    (hc : c.WellFormed) :
    (Value.seq kind items).typeOf.WidensTo c ↔
      c = .string ∨ ∃ e n, c = .array e n ∧ (∀ v ∈ items, v.typeOf.WidensTo e) ∧
        (.null ∈ items → n = true) := by
  rw [typeOf, DataType.array_widensTo_iff, any_isNull_iff]
  refine or_congr_right (exists₂_congr fun e n => and_congr_right ?_)
  rintro rfl
  have hnone : ∀ t ∈ (none : Option DataType), t.WellFormed := by simp
  rw [elementType_widensTo_iff items hnone hc.element]
  simp [DataType.WidensTo.null]

theorem typeOf_map_eq (kind : MapKind) (entries : List (Value × Value)) :
    typeOf (.map kind entries) = FieldTypes.mergedStruct (entries.map entryField) :=
  typeOf_map kind entries

theorem typeOf_map_widensTo_iff {kind : MapKind} {entries : List (Value × Value)} {c : DataType}
    (hc : c.WellFormed) :
    (Value.map kind entries).typeOf.WidensTo c ↔
      c = .string ∨ ∃ gs, c = .struct gs ∧
        ∀ e ∈ entries, ∃ u, (e.1.plainText, u) ∈ gs ∧ e.2.typeOf.WidensTo u := by
  rw [typeOf_map_eq, FieldTypes.mergedStruct_widensTo_iff (wellFormed_entryFields entries) hc]
  simp only [List.forall_mem_map, entryField]

theorem typeOf_eq_null_iff {v : Value} : v.typeOf = .null ↔ v = .null := by
  constructor
  · intro h
    cases v with
    | seq kind items => cases h
    | map kind entries => cases h
    | _ => exact eq_null_of_scalarType h
  · rintro rfl
    rfl

theorem wellFormed_map_typeOf (vs : List Value) : ∀ t ∈ vs.map typeOf, t.WellFormed :=
  List.forall_mem_map.2 fun v _ => v.wellFormed_typeOf

theorem typeOf_seq_eq (kind : SeqKind) (items : List Value) :
    typeOf (.seq kind items) =
      .array ((items.map typeOf).foldl DataType.join .null) (items.any isNull) := by
  have hnone : ∀ t ∈ (none : Option DataType), t.WellFormed := by simp
  have hnull : DataType.null.WellFormed := trivial
  have htypes := wellFormed_map_typeOf items
  have helement : ((elementType none items).getD .null).WellFormed :=
    (wellFormed_typeOf (.seq kind items)).element
  rw [typeOf]
  congr 1
  refine DataType.eq_of_widensTo_iff helement (DataType.wellFormed_foldl_join hnull htypes)
    fun c hc => ?_
  rw [elementType_widensTo_iff items hnone hc, DataType.foldl_join_widensTo_iff hnull htypes hc,
    List.forall_mem_map]
  rfl

/-- The running join of the types of values, from a given type on. -/
def joinTypes (start : DataType) (vs : List Value) : Except Failure DataType :=
  vs.foldlM (fun t v => return t.join (← v.inferType)) start

theorem inferType_ok_or_textless (v : Value) :
    (v.Named ∧ v.inferType = .ok v.typeOf) ∨
      (¬ v.Named ∧ ∃ fault, v.inferType = .error (.textless fault)) := by
  rcases v.checkNamed_ok_or_textless with ⟨hnamed, hv⟩ | ⟨hnot, fault, hv⟩
  · refine Or.inl ⟨hnamed, ?_⟩
    rw [inferType, hv]
    rfl
  · refine Or.inr ⟨hnot, fault, ?_⟩
    rw [inferType, hv]
    rfl

theorem joinTypes_ok_or_textless (start : DataType) (vs : List Value) :
    ((∀ v ∈ vs, v.Named) ∧
      joinTypes start vs = .ok ((vs.map typeOf).foldl DataType.join start)) ∨
    (¬ (∀ v ∈ vs, v.Named) ∧ ∃ fault, joinTypes start vs = .error (.textless fault)) := by
  induction vs generalizing start with
  | nil => exact Or.inl ⟨by simp, rfl⟩
  | cons v vs ih =>
    rw [List.forall_mem_cons, joinTypes, List.foldlM_cons]
    rcases v.inferType_ok_or_textless with ⟨hnamed, hv⟩ | ⟨hnot, fault, hv⟩
    · rw [hv]
      rcases ih (start.join v.typeOf) with ⟨hall, hrest⟩ | ⟨hnot, hrest⟩
      · exact Or.inl ⟨⟨hnamed, hall⟩, hrest⟩
      · exact Or.inr ⟨fun hall => hnot hall.2, hrest⟩
    · rw [hv]
      exact Or.inr ⟨fun hall => hnot hall.1, fault, rfl⟩

end Value

end TabularSchema
