import TabularSchema.Proofs.SchemaStruct

/-!
# Order and repetition do not show in types

Two values are equivalent if they hold the same scalars, up to the order of the entries of mappings
and up to the order and the number of the elements of sequences. Which entries belong together is
decided by a relation between their keys. If related keys have the same text, equivalent values have
the same type, and so have collections of equivalent documents. It is the text that counts: two
frozen sets with the same items are equal keys, but their texts show the order of the items.
-/

namespace TabularSchema

namespace Value

section Equivalence

variable (SameKey : Value → Value → Prop)

mutual

/-- The values hold the same scalars in the same places, except that entries can change places and
elements can change places and be repeated. -/
def Equivalent : Value → Value → Prop
  | .map _ es, .map _ fs => MatchEntries es fs
  | .seq _ xs, .seq _ ys => EachIn xs ys ∧ ∀ y ∈ ys, SomeIn xs y
  | v, w => v = w

/-- The entries match one by one in some order. -/
def MatchEntries : List (Value × Value) → List (Value × Value) → Prop
  | [], fs => fs = []
  | (key, v) :: es, fs =>
    ∃ before key' w after, fs = before ++ (key', w) :: after ∧ SameKey key key' ∧
      Equivalent v w ∧ MatchEntries es (before ++ after)

def EachIn : List Value → List Value → Prop
  | [], _ => True
  | x :: xs, ys => (∃ y ∈ ys, Equivalent x y) ∧ EachIn xs ys

def SomeIn : List Value → Value → Prop
  | [], _ => False
  | x :: xs, y => Equivalent x y ∨ SomeIn xs y

end

variable {SameKey}

theorem eachIn_iff {xs ys : List Value} :
    EachIn SameKey xs ys ↔ ∀ x ∈ xs, ∃ y ∈ ys, Equivalent SameKey x y := by
  induction xs with
  | nil => simp [EachIn]
  | cons x xs ih => rw [EachIn, ih, List.forall_mem_cons]

theorem someIn_iff {xs : List Value} {y : Value} :
    SomeIn SameKey xs y ↔ ∃ x ∈ xs, Equivalent SameKey x y := by
  induction xs with
  | nil => simp [SomeIn]
  | cons x xs ih => rw [SomeIn, ih, List.exists_mem_cons_iff]

theorem MatchEntries.forall_exists {es fs : List (Value × Value)}
    (h : MatchEntries SameKey es fs) :
    (∀ e ∈ es, ∃ f ∈ fs, SameKey e.1 f.1 ∧ Equivalent SameKey e.2 f.2) ∧
      ∀ f ∈ fs, ∃ e ∈ es, SameKey e.1 f.1 ∧ Equivalent SameKey e.2 f.2 := by
  induction es generalizing fs with
  | nil =>
    rw [MatchEntries] at h
    simp [h]
  | cons e es ih =>
    obtain ⟨key, v⟩ := e
    rw [MatchEntries] at h
    obtain ⟨before, key', w, after, rfl, hkey, hvw, hrest⟩ := h
    obtain ⟨hes, hfs⟩ := ih hrest
    constructor
    · refine List.forall_mem_cons.2 ⟨⟨(key', w), by simp, hkey, hvw⟩, fun e he => ?_⟩
      obtain ⟨f, hf, hef⟩ := hes e he
      have hmem : f ∈ before ++ (key', w) :: after := by
        rcases List.mem_append.1 hf with hf | hf
        · exact List.mem_append_left _ hf
        · exact List.mem_append_right _ (List.mem_cons_of_mem _ hf)
      exact ⟨f, hmem, hef⟩
    · intro f hf
      by_cases hhead : f = (key', w)
      · rw [hhead]
        exact ⟨(key, v), List.mem_cons_self, hkey, hvw⟩
      · have hmem : f ∈ before ++ after := by simpa [hhead] using hf
        obtain ⟨e, he, hef⟩ := hfs f hmem
        exact ⟨e, List.mem_cons_of_mem _ he, hef⟩

theorem Equivalent.of_scalar {v w : Value} (hv : v.IsScalar) (h : Equivalent SameKey v w) :
    v = w := by
  cases v with
  | seq kind items => exact hv.elim
  | map kind entries => exact hv.elim
  | _ => simpa only [Equivalent] using h

theorem Equivalent.of_seq {kind : SeqKind} {xs : List Value} {w : Value}
    (h : Equivalent SameKey (.seq kind xs) w) :
    ∃ kind' ys, w = .seq kind' ys ∧ (∀ x ∈ xs, ∃ y ∈ ys, Equivalent SameKey x y) ∧
      ∀ y ∈ ys, ∃ x ∈ xs, Equivalent SameKey x y := by
  cases w with
  | seq kind' ys =>
    rw [Equivalent] at h
    exact ⟨kind', ys, rfl, eachIn_iff.1 h.1, fun y hy => someIn_iff.1 (h.2 y hy)⟩
  | _ =>
    simp only [Equivalent] at h
    cases h

theorem Equivalent.of_map {kind : MapKind} {es : List (Value × Value)} {w : Value}
    (h : Equivalent SameKey (.map kind es) w) :
    ∃ kind' fs, w = .map kind' fs ∧ MatchEntries SameKey es fs := by
  cases w with
  | map kind' fs =>
    rw [Equivalent] at h
    exact ⟨kind', fs, rfl, h⟩
  | _ =>
    simp only [Equivalent] at h
    cases h

end Equivalence

/-- The keys name the same field, or neither names one. -/
def SameText (key key' : Value) : Prop := key.fieldName = key'.fieldName

theorem SameText.symm {key key' : Value} (h : SameText key key') : SameText key' key := Eq.symm h

theorem SameText.fieldName_eq {key key' : Value} (h : SameText key key')
    (hkey : key.fieldName = .ok key.plainText) :
    key'.fieldName = .ok key'.plainText ∧ key'.plainText = key.plainText := by
  have hname : key'.fieldName = .ok key.plainText := h ▸ hkey
  have htext := eq_plainText_of_fieldName hname
  exact ⟨htext ▸ hname, htext.symm⟩

theorem Equivalent.named_iff {v w : Value} (h : Equivalent SameText v w) : v.Named ↔ w.Named := by
  induction v using inductionOn generalizing w with
  | scalar v hv => rw [h.of_scalar hv]
  | seq kind xs ih =>
    obtain ⟨kind', ys, rfl, hxs, hys⟩ := h.of_seq
    rw [named_seq_iff, named_seq_iff]
    constructor
    · intro hnamed y hy
      obtain ⟨x, hx, hxy⟩ := hys y hy
      exact (ih x hx hxy).1 (hnamed x hx)
    · intro hnamed x hx
      obtain ⟨y, hy, hxy⟩ := hxs x hx
      exact (ih x hx hxy).2 (hnamed y hy)
  | map kind es ih =>
    obtain ⟨kind', fs, rfl, hmatch⟩ := h.of_map
    obtain ⟨hes, hfs⟩ := hmatch.forall_exists
    rw [named_map_iff, named_map_iff]
    constructor
    · intro hnamed f hf
      obtain ⟨e, he, hkey, hvalue⟩ := hfs f hf
      exact ⟨(hkey.fieldName_eq (hnamed e he).1).1, (ih e he hvalue).1 (hnamed e he).2⟩
    · intro hnamed e he
      obtain ⟨f, hf, hkey, hvalue⟩ := hes e he
      exact ⟨(hkey.symm.fieldName_eq (hnamed f hf).1).1, (ih e he hvalue).2 (hnamed f hf).2⟩

/-- The type of a sequence depends on which types its elements have, and on nothing else. -/
theorem typeOf_seq_congr {kind kind' : SeqKind} {xs ys : List Value}
    (h : ∀ t, t ∈ xs.map typeOf ↔ t ∈ ys.map typeOf) :
    typeOf (.seq kind xs) = typeOf (.seq kind' ys) := by
  have hnull (zs : List Value) : Value.null ∈ zs ↔ DataType.null ∈ zs.map typeOf := by
    rw [List.mem_map]
    constructor
    · intro hz
      exact ⟨_, hz, rfl⟩
    · rintro ⟨z, hz, htype⟩
      rwa [typeOf_eq_null_iff.1 htype] at hz
  have htypes (zs : List Value) (e : DataType) :
      (∀ z ∈ zs, z.typeOf.WidensTo e) ↔ ∀ t ∈ zs.map typeOf, t.WidensTo e := by
    rw [List.forall_mem_map]
  refine DataType.eq_of_widensTo_iff (wellFormed_typeOf _) (wellFormed_typeOf _) fun c hc => ?_
  rw [typeOf_seq_widensTo_iff hc, typeOf_seq_widensTo_iff hc]
  simp only [htypes, hnull, h]

theorem MatchEntries.mem_fields_iff {es fs : List (Value × Value)}
    (h : MatchEntries SameText es fs) (hnamed : ∀ e ∈ es, e.1.fieldName = .ok e.1.plainText)
    (htypes : ∀ e ∈ es, ∀ w, Equivalent SameText e.2 w → e.2.typeOf = w.typeOf) (g : Field) :
    g ∈ es.map entryField ↔ g ∈ fs.map entryField := by
  obtain ⟨hes, hfs⟩ := h.forall_exists
  have hfield : ∀ e ∈ es, ∀ f : Value × Value, SameText e.1 f.1 → Equivalent SameText e.2 f.2 →
      entryField e = entryField f := by
    intro e he f hkey hvalue
    have htext := (hkey.fieldName_eq (hnamed e he)).2
    rw [entryField, entryField, htext, htypes e he f.2 hvalue]
  rw [List.mem_map, List.mem_map]
  constructor
  · rintro ⟨e, he, rfl⟩
    obtain ⟨f, hf, hkey, hvalue⟩ := hes e he
    exact ⟨f, hf, (hfield e he f hkey hvalue).symm⟩
  · rintro ⟨f, hf, rfl⟩
    obtain ⟨e, he, hkey, hvalue⟩ := hfs f hf
    exact ⟨e, he, hfield e he f hkey hvalue⟩

theorem Equivalent.typeOf_eq {v w : Value} (h : Equivalent SameText v w) (hv : v.Named) :
    v.typeOf = w.typeOf := by
  induction v using inductionOn generalizing w with
  | scalar v hscalar => rw [h.of_scalar hscalar]
  | seq kind xs ih =>
    obtain ⟨kind', ys, rfl, hxs, hys⟩ := h.of_seq
    rw [named_seq_iff] at hv
    refine typeOf_seq_congr fun t => ?_
    rw [List.mem_map, List.mem_map]
    constructor
    · rintro ⟨x, hx, rfl⟩
      obtain ⟨y, hy, hxy⟩ := hxs x hx
      exact ⟨y, hy, (ih x hx hxy (hv x hx)).symm⟩
    · rintro ⟨y, hy, rfl⟩
      obtain ⟨x, hx, hxy⟩ := hys y hy
      exact ⟨x, hx, ih x hx hxy (hv x hx)⟩
  | map kind es ih =>
    obtain ⟨kind', fs, rfl, hmatch⟩ := h.of_map
    rw [named_map_iff] at hv
    rw [typeOf_map_eq, typeOf_map_eq]
    refine FieldTypes.mergedStruct_congr (wellFormed_entryFields es) (wellFormed_entryFields fs) ?_
    exact hmatch.mem_fields_iff (fun e he => (hv e he).1) fun e he w hw => ih e he hw (hv e he).2

theorem Equivalent.mem_documentFields_iff {d d' : Value} (h : Equivalent SameText d d')
    (hmapping : d.entries?.isSome = true) (hnamed : d.Named) (g : Field) :
    g ∈ d.documentFields ↔ g ∈ d'.documentFields := by
  cases d with
  | map kind es =>
    obtain ⟨kind', fs, rfl, hmatch⟩ := h.of_map
    rw [named_map_iff] at hnamed
    exact hmatch.mem_fields_iff (fun e he => (hnamed e he).1)
      (fun e he w hw => hw.typeOf_eq (hnamed e he).2) g
  | _ => cases hmapping

end Value

namespace Inference

/-- Every document of either collection is equivalent to some document of the other. -/
def EquivalentDocuments (SameKey : Value → Value → Prop) (ds es : List Value) : Prop :=
  (∀ d ∈ ds, ∃ e ∈ es, Value.Equivalent SameKey d e) ∧
    ∀ e ∈ es, ∃ d ∈ ds, Value.Equivalent SameKey d e

namespace EquivalentDocuments

variable {ds es : List Value} (h : EquivalentDocuments Value.SameText ds es)
include h

theorem forall_named_iff : (∀ d ∈ ds, d.Named) ↔ ∀ e ∈ es, e.Named := by
  constructor
  · intro hnamed e he
    obtain ⟨d, hd, hde⟩ := h.2 e he
    exact hde.named_iff.1 (hnamed d hd)
  · intro hnamed d hd
    obtain ⟨e, he, hde⟩ := h.1 d hd
    exact hde.named_iff.2 (hnamed e he)

theorem mergedStruct_eq (hds : ∀ d ∈ ds, d.entries?.isSome = true) (hnamed : ∀ d ∈ ds, d.Named) :
    FieldTypes.mergedStruct (ds.map Value.documentFields).flatten =
      FieldTypes.mergedStruct (es.map Value.documentFields).flatten := by
  refine FieldTypes.mergedStruct_congr (wellFormed_flatten_documentFields ds)
    (wellFormed_flatten_documentFields es) fun g => ?_
  rw [← List.flatMap_def, ← List.flatMap_def, List.mem_flatMap, List.mem_flatMap]
  constructor
  · rintro ⟨d, hd, hg⟩
    obtain ⟨e, he, hde⟩ := h.1 d hd
    exact ⟨e, he, (hde.mem_documentFields_iff (hds d hd) (hnamed d hd) g).1 hg⟩
  · rintro ⟨e, he, hg⟩
    obtain ⟨d, hd, hde⟩ := h.2 e he
    exact ⟨d, hd, (hde.mem_documentFields_iff (hds d hd) (hnamed d hd) g).2 hg⟩

end EquivalentDocuments

/-- Equivalent values have the same type, and collections of equivalent documents the same schema up
to the order of its fields. Where one of them has none because of a key without a text, the other
has none either. -/
theorem infer_eq_of_equivalent (ratio : Value) (r : Decimal) (seed : Int)
    (hr : Sampling.acceptRatio ratio = .ok r) (hfull : Sampling.isFullScan r = true) :
    (∀ v w, Value.Equivalent Value.SameText v w →
      (v.Named → ∃ t, v.inferType = .ok t ∧ w.inferType = .ok t) ∧
      (¬ v.Named → ∃ fault fault',
        v.inferType = .error (.textless fault) ∧ w.inferType = .error (.textless fault'))) ∧
    (∀ ds es, (∀ d ∈ ds, d.entries?.isSome = true) → (∀ e ∈ es, e.entries?.isSome = true) →
      EquivalentDocuments Value.SameText ds es →
      ((∀ d ∈ ds, d.Named) → ∃ s s', infer ⟨ratio, seed, .plain⟩ (.list ds) = .ok s ∧
        infer ⟨ratio, seed, .plain⟩ (.list es) = .ok s' ∧ s.asStruct = s'.asStruct) ∧
      (¬ (∀ d ∈ ds, d.Named) → ∃ fault fault',
        infer ⟨ratio, seed, .plain⟩ (.list ds) = .error (.textless fault) ∧
          infer ⟨ratio, seed, .plain⟩ (.list es) = .error (.textless fault'))) := by
  constructor
  · intro v w hvw
    rcases v.inferType_ok_or_textless with ⟨hv, htype⟩ | ⟨hv, fault, htype⟩ <;>
      rcases w.inferType_ok_or_textless with ⟨hw, htype'⟩ | ⟨hw, fault', htype'⟩
    · rw [← hvw.typeOf_eq hv] at htype'
      exact ⟨fun _ => ⟨_, htype, htype'⟩, fun hnot => absurd hv hnot⟩
    · exact absurd (hvw.named_iff.1 hv) hw
    · exact absurd (hvw.named_iff.2 hw) hv
    · exact ⟨fun hnamed => absurd hnamed hv, fun _ => ⟨fault, fault', htype, htype'⟩⟩
  · intro ds es hds hes hequiv
    rcases infer_mappings (p := ⟨ratio, seed, .plain⟩) hr hfull (Decoder.mapM_plain ds) hds with
        ⟨hd, hresult⟩ | ⟨hd, fault, hresult⟩ <;>
      rcases infer_mappings (p := ⟨ratio, seed, .plain⟩) hr hfull (Decoder.mapM_plain es) hes with
        ⟨he, hresult'⟩ | ⟨he, fault', hresult'⟩
    · refine ⟨fun _ => ⟨_, _, hresult, hresult', ?_⟩, fun hnot => absurd hd hnot⟩
      exact hequiv.mergedStruct_eq hds hd
    · exact absurd (hequiv.forall_named_iff.1 hd) he
    · exact absurd (hequiv.forall_named_iff.2 he) hd
    · exact ⟨fun hnamed => absurd hnamed hd, fun _ => ⟨fault, fault', hresult, hresult'⟩⟩

/-- The same entries in another order, with the elements of a list as a set. -/
theorem infer_eq_of_equivalent_reordered :
    let d : Value := .map .plain [(.text "a", .int .plain 1),
      (.text "b", .list [.null, .bool true, .null])]
    let e : Value := .map .readOnly [(.text "b", .seq .set [.bool true, .null]),
      (.text "a", .int .plain 1)]
    ∃ s s', infer Plan.full (.list [d, d]) = .ok s ∧ infer Plan.full (.list [e]) = .ok s' ∧
      s.asStruct = s'.asStruct ∧ s.fields ≠ s'.fields := by
  intro d e
  have hlists : Value.Equivalent Value.SameText (.list [.null, .bool true, .null])
      (.seq .set [.bool true, .null]) := by
    simp [Value.Equivalent, Value.EachIn, Value.SomeIn]
  have hde : Value.Equivalent Value.SameText d e := by
    simp only [d, e, Value.Equivalent, Value.MatchEntries]
    refine ⟨[(.text "b", _)], .text "a", .int .plain 1, [], rfl, rfl, rfl, ?_⟩
    exact ⟨[], .text "b", _, [], rfl, rfl, hlists, rfl⟩
  have hdocs : EquivalentDocuments Value.SameText [d, d] [e] := by
    constructor
    · exact List.forall_mem_cons.2
        ⟨⟨e, by simp, hde⟩, List.forall_mem_singleton.2 ⟨e, by simp, hde⟩⟩
    · exact List.forall_mem_singleton.2 ⟨d, by simp, hde⟩
  obtain ⟨s, s', hs, hs', hstruct⟩ :=
    ((infer_eq_of_equivalent _ _ Plan.full.seed acceptRatio_full isFullScan_one).2 [d, d] [e]
      (by decide) (by decide) hdocs).1 (by decide)
  refine ⟨s, s', hs, hs', hstruct, fun hfields => ?_⟩
  have hdiffer : (infer Plan.full (.list [d, d])).map Schema.fields ≠
      (infer Plan.full (.list [e])).map Schema.fields := by decide +kernel
  have hs : infer Plan.full (.list [d, d]) = .ok s := hs
  have hs' : infer Plan.full (.list [e]) = .ok s' := hs'
  rw [hs, hs'] at hdiffer
  exact hdiffer (congrArg Except.ok hfields)

/-- The keys are of one kind and equal. -/
def SameKindAndValue (key key' : Value) : Prop :=
  key.kindName = key'.kindName ∧ key.same key' = true

/-- Two equal frozen sets as keys name two fields, for their texts show the order of the items. -/
theorem infer_separates_equal_keys :
    let d : Value := .map .plain [(.seq .frozenSet [.int .plain 0, .int .plain 8], .int .plain 1)]
    let e : Value := .map .plain [(.seq .frozenSet [.int .plain 8, .int .plain 0], .int .plain 1)]
    Value.Equivalent SameKindAndValue d e ∧ EquivalentDocuments SameKindAndValue [d] [d, e] ∧
      d.inferType ≠ e.inferType ∧
      (infer Plan.full (.list [d])).map Schema.asStruct ≠
        (infer Plan.full (.list [d, e])).map Schema.asStruct := by
  intro d e
  have hsame : ∀ items : List Value,
      (Value.seq .frozenSet [.int .plain 0, .int .plain 8]).same (.seq .frozenSet items) = true →
      Value.Equivalent SameKindAndValue d
        (.map .plain [(.seq .frozenSet items, .int .plain 1)]) := by
    intro items hitems
    simp only [d, Value.Equivalent, Value.MatchEntries]
    exact ⟨[], .seq .frozenSet items, .int .plain 1, [], rfl, ⟨rfl, hitems⟩, rfl, rfl⟩
  have hdd : Value.Equivalent SameKindAndValue d d := hsame _ (by decide +kernel)
  have hde : Value.Equivalent SameKindAndValue d e := hsame _ (by decide +kernel)
  refine ⟨hde, ⟨?_, ?_⟩, ?_, ?_⟩
  · exact List.forall_mem_singleton.2 ⟨d, by simp, hdd⟩
  · exact List.forall_mem_cons.2 ⟨⟨d, by simp, hdd⟩, List.forall_mem_singleton.2 ⟨d, by simp, hde⟩⟩
  · decide +kernel
  · decide +kernel

end Inference

end TabularSchema
