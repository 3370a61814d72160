import TabularSchema.Proofs.FieldMerge
import TabularSchema.Typing

/-!
# The type of a value is the least that admits it

`DataType.Admits` says directly which values a type describes, without typing them. For a value
whose keys all name fields, a well-formed type admits it exactly when its own type widens to that
one (`admits_iff`), so `typeOf` gives a type that admits the value and the least such type.
-/

namespace TabularSchema

namespace Value

def IsScalar : Value → Prop
  | .seq _ _ => False
  | .map _ _ => False
  | _ => True

/-- The keys of all mappings inside the value have texts, which name fields. -/
inductive Named : Value → Prop
  | scalar {v : Value} : v.IsScalar → Named v
  | seq {kind : SeqKind} {items : List Value} : (∀ v ∈ items, Named v) → Named (.seq kind items)
  | map {kind : MapKind} {entries : List (Value × Value)} :
      (∀ e ∈ entries, ∃ name, e.1.fieldName = .ok name) → (∀ e ∈ entries, Named e.2) →
        Named (.map kind entries)

/-- Induction on a value, where the values inside are given by membership. -/
@[elab_as_elim]
theorem inductionOn {P : Value → Prop} (scalar : ∀ v, v.IsScalar → P v)
    (seq : ∀ kind (items : List Value), (∀ v ∈ items, P v) → P (.seq kind items))
    (map : ∀ kind (entries : List (Value × Value)), (∀ e ∈ entries, P e.2) → P (.map kind entries))
    (v : Value) : P v :=
  @Value.rec P (fun items => ∀ v ∈ items, P v) (fun entries => ∀ e ∈ entries, P e.2)
    (fun e => P e.2) (scalar _ trivial) (fun _ => scalar _ trivial) (fun _ _ => scalar _ trivial)
    (fun _ _ => scalar _ trivial) (fun _ => scalar _ trivial) (fun _ => scalar _ trivial)
    (fun _ _ => scalar _ trivial) (fun _ _ => scalar _ trivial) (fun _ => scalar _ trivial)
    (fun _ => scalar _ trivial) seq map (fun _ => scalar _ trivial) (by simp)
    (fun _ _ hv hvs => List.forall_mem_cons.2 ⟨hv, hvs⟩) (by simp)
    (fun _ _ he hes => List.forall_mem_cons.2 ⟨he, hes⟩) (fun _ _ _ h => h) v

theorem typeOf_of_isScalar {v : Value} (h : v.IsScalar) : v.typeOf = v.scalarType := by
  cases v <;> first | rfl | exact h.elim

theorem exists_atom_scalarType (v : Value) : ∃ a, v.scalarType = .atom a := by
  fun_cases scalarType v
  case case3 n =>
    unfold DataType.ofIntRange
    split_ifs <;> exact ⟨_, rfl⟩
  all_goals exact ⟨_, rfl⟩

theorem eq_null_of_scalarType {v : Value} (h : v.scalarType = .null) : v = .null := by
  cases v with
  | null => rfl
  | int width n =>
    cases width with
    | plain =>
      rw [scalarType, DataType.ofIntRange] at h
      split_ifs at h <;> exact absurd h (by decide)
    | _ =>
      simp only [scalarType] at h
      exact absurd h (by decide)
  | float width x =>
    cases width <;> simp only [scalarType] at h <;> exact absurd h (by decide)
  | _ =>
    simp only [scalarType] at h
    exact absurd h (by decide)

/-- The field of a mapping entry: the text of its key, with the type of its value. -/
def entryField (e : Value × Value) : Field := (e.1.plainText, e.2.typeOf)

theorem entryTypes_eq_merge (known : FieldTypes) (entries : List (Value × Value)) :
    entryTypes known entries = known.merge (entries.map entryField) := by
  induction entries generalizing known with
  | nil => rw [entryTypes]; rfl
  | cons e entries ih =>
    obtain ⟨k, v⟩ := e
    rw [entryTypes, ih]
    rfl

theorem typeOf_map (kind : MapKind) (entries : List (Value × Value)) :
    typeOf (.map kind entries) =
      .struct (Field.sort (FieldTypes.merge [] (entries.map entryField))) := by
  rw [typeOf, entryTypes_eq_merge]

theorem any_isNull_iff {items : List Value} : items.any isNull = true ↔ .null ∈ items := by
  rw [List.any_eq_true]
  constructor
  · rintro ⟨v, hv, hnull⟩
    cases v <;> first | exact hv | cases hnull
  · intro h
    exact ⟨_, h, rfl⟩

theorem wellFormed_elementType {items : List Value} (hi : ∀ v ∈ items, v.typeOf.WellFormed)
    {known : Option DataType} (hk : ∀ t ∈ known, t.WellFormed) :
    ∀ t ∈ elementType known items, t.WellFormed := by
  induction items generalizing known with
  | nil => rwa [elementType]
  | cons v items ih =>
    obtain ⟨hv, hi⟩ := List.forall_mem_cons.1 hi
    rw [elementType]
    apply ih hi
    intro t ht
    split_ifs at ht with hnull
    · exact hk t ht
    · obtain rfl := Option.mem_some.1 ht
      cases known with
      | none => exact hv
      | some u => exact (hk u rfl).join hv

theorem wellFormed_typeOf (v : Value) : v.typeOf.WellFormed := by
  induction v using inductionOn with
  | scalar v hv =>
    obtain ⟨a, ha⟩ := exists_atom_scalarType v
    rw [typeOf_of_isScalar hv, ha]
    trivial
  | seq kind items ih =>
    rw [typeOf, DataType.WellFormed]
    have hnone : ∀ t ∈ (none : Option DataType), t.WellFormed := by simp
    cases h : elementType none items with
    | none => trivial
    | some t => exact wellFormed_elementType ih hnone t h
  | map kind entries ih =>
    rw [typeOf_map, DataType.WellFormed, DataType.wellFormedFields_iff]
    have hfields : FieldTypes.WellFormed (entries.map entryField) := by
      intro f hf
      obtain ⟨e, he, rfl⟩ := List.mem_map.1 hf
      exact ih e he
    refine ⟨Field.ascending_sort (FieldTypes.Distinct.nil.merge _), fun f hf => ?_⟩
    exact FieldTypes.WellFormed.nil.merge hfields f ((Field.sort_perm _).mem_iff.1 hf)

theorem wellFormed_entryFields (entries : List (Value × Value)) :
    FieldTypes.WellFormed (entries.map entryField) := by
  intro f hf
  obtain ⟨e, _, rfl⟩ := List.mem_map.1 hf
  exact e.2.wellFormed_typeOf

theorem joinElement_widensTo_iff {known : Option DataType} (hk : ∀ t ∈ known, t.WellFormed)
    {t u : DataType} (ht : t.WellFormed) (hu : u.WellFormed) :
    (joinElement known t).WidensTo u ↔ (known.getD .null).WidensTo u ∧ t.WidensTo u := by
  cases known with
  | none =>
    rw [joinElement, Option.getD_none]
    exact ⟨fun h => ⟨DataType.WidensTo.null u, h⟩, fun h => h.2⟩
  | some s => exact DataType.join_widensTo_iff (hk s rfl) ht hu

/-- The element type of a sequence is the least that all its elements widen to. -/
theorem elementType_widensTo_iff (items : List Value) {known : Option DataType}
    (hk : ∀ t ∈ known, t.WellFormed) {u : DataType} (hu : u.WellFormed) :
    ((elementType known items).getD .null).WidensTo u ↔
      (known.getD .null).WidensTo u ∧ ∀ v ∈ items, v.typeOf.WidensTo u := by
  induction items generalizing known with
  | nil => simp [elementType]
  | cons v items ih =>
    rw [elementType, List.forall_mem_cons]
    by_cases hnull : v.isNull = true
    · have hv : v = .null := by cases v <;> first | rfl | cases hnull
      have htype : v.typeOf.WidensTo u := hv ▸ DataType.WidensTo.null u
      rw [if_pos hnull, ih hk]
      exact ⟨fun h => ⟨h.1, htype, h.2⟩, fun h => ⟨h.1, h.2.2⟩⟩
    · have hjoined : ∀ t ∈ some (joinElement known v.typeOf), t.WellFormed := by
        intro t ht
        obtain rfl := Option.mem_some.1 ht
        cases known with
        | none => exact wellFormed_typeOf v
        | some s => exact (hk s rfl).join (wellFormed_typeOf v)
      rw [if_neg hnull, ih hjoined, Option.getD_some,
        joinElement_widensTo_iff hk (wellFormed_typeOf v) hu, and_assoc]

end Value

namespace DataType

mutual

/-- The type describes the value: a string everything, and every type null; an atom the scalars
whose own type widens to it; a struct the mappings whose entries have fields; an array the sequences
whose elements its element type describes, without null unless it contains null. -/
inductive Admits : DataType → Value → Prop
  | string (v : Value) : Admits string v
  | null (t : DataType) : Admits t .null
  | scalar {v : Value} {a b : Atom} :
      v.IsScalar → v.scalarType = .atom a → a.WidensTo b → Admits (.atom b) v
  | struct {fs : List (String × DataType)} {kind : MapKind} {entries : List (Value × Value)} :
      AdmitsEntries fs entries → Admits (.struct fs) (.map kind entries)
  | array {e : DataType} {n : Bool} {kind : SeqKind} {items : List Value} :
      AdmitsItems e items → (.null ∈ items → n = true) → Admits (.array e n) (.seq kind items)

inductive AdmitsEntries : List (String × DataType) → List (Value × Value) → Prop
  | nil (fs : List (String × DataType)) : AdmitsEntries fs []
  | cons {fs : List (String × DataType)} {key value : Value} {name : String} {t : DataType}
      {entries : List (Value × Value)} :
      key.fieldName = .ok name → (name, t) ∈ fs → Admits t value → AdmitsEntries fs entries →
        AdmitsEntries fs ((key, value) :: entries)

inductive AdmitsItems : DataType → List Value → Prop
  | nil (e : DataType) : AdmitsItems e []
  | null {e : DataType} {items : List Value} : AdmitsItems e items → AdmitsItems e (.null :: items)
  | cons {e : DataType} {v : Value} {items : List Value} :
      Admits e v → AdmitsItems e items → AdmitsItems e (v :: items)

end

theorem admitsItems_iff {e : DataType} {items : List Value} :
    AdmitsItems e items ↔ ∀ v ∈ items, e.Admits v := by
  induction items with
  | nil => simp [AdmitsItems.nil]
  | cons v items ih =>
    rw [List.forall_mem_cons, ← ih]
    constructor
    · intro h
      cases h with
      | null h => exact ⟨Admits.null e, h⟩
      | cons hv h => exact ⟨hv, h⟩
    · rintro ⟨hv, h⟩
      exact AdmitsItems.cons hv h

theorem admitsEntries_iff {fs : List Field} {entries : List (Value × Value)} :
    AdmitsEntries fs entries ↔
      ∀ e ∈ entries, ∃ name t, e.1.fieldName = .ok name ∧ (name, t) ∈ fs ∧ t.Admits e.2 := by
  induction entries with
  | nil => simp [AdmitsEntries.nil]
  | cons e entries ih =>
    obtain ⟨key, value⟩ := e
    rw [List.forall_mem_cons, ← ih]
    constructor
    · intro h
      cases h with
      | cons hname hmem ht h => exact ⟨⟨_, _, hname, hmem, ht⟩, h⟩
    · rintro ⟨⟨name, t, hname, hmem, ht⟩, h⟩
      exact AdmitsEntries.cons hname hmem ht h

theorem admits_seq_iff {t : DataType} {kind : SeqKind} {items : List Value} :
    t.Admits (.seq kind items) ↔
      t = string ∨
        ∃ e n, t = .array e n ∧ (∀ v ∈ items, e.Admits v) ∧ (.null ∈ items → n = true) := by
  constructor
  · intro h
    cases h with
    | string => exact Or.inl rfl
    | scalar hv => exact hv.elim
    | array hitems hn => exact Or.inr ⟨_, _, rfl, admitsItems_iff.1 hitems, hn⟩
  · rintro (rfl | ⟨e, n, rfl, hitems, hn⟩)
    · exact Admits.string _
    · exact Admits.array (admitsItems_iff.2 hitems) hn

theorem admits_map_iff {t : DataType} {kind : MapKind} {entries : List (Value × Value)} :
    t.Admits (.map kind entries) ↔
      t = string ∨ ∃ fs, t = .struct fs ∧ AdmitsEntries fs entries := by
  constructor
  · intro h
    cases h with
    | string => exact Or.inl rfl
    | scalar hv => exact hv.elim
    | struct h => exact Or.inr ⟨_, rfl, h⟩
  · rintro (rfl | ⟨fs, rfl, h⟩)
    · exact Admits.string _
    · exact Admits.struct h

theorem admits_scalar_iff {t : DataType} {v : Value} (hv : v.IsScalar) :
    t.Admits v ↔ v.scalarType.WidensTo t := by
  obtain ⟨a, ha⟩ := v.exists_atom_scalarType
  rw [ha]
  constructor
  · intro h
    cases h with
    | string => exact WidensTo.string _
    | null =>
      obtain rfl := DataType.atom.inj ha
      exact WidensTo.null t
    | scalar _ ha' hab =>
      obtain rfl := DataType.atom.inj (ha.symm.trans ha')
      exact WidensTo.atom hab
    | struct _ => exact hv.elim
    | array _ _ => exact hv.elim
  · intro h
    rcases atom_widensTo_iff.1 h with rfl | rfl | ⟨b, rfl, hab⟩
    · rw [Value.eq_null_of_scalarType ha]
      exact Admits.null t
    · exact Admits.string v
    · exact Admits.scalar hv ha hab

end DataType

namespace Value

theorem written_eq_ok_or_textless (v : Value) :
    v.written = .ok v.plainText ∨ ∃ fault, v.written = .error (.textless fault) := by
  unfold written
  split
  · exact Or.inr ⟨_, rfl⟩
  · split
    · exact Or.inr ⟨_, rfl⟩
    · exact Or.inl rfl

theorem fieldName_eq_ok_or_textless (key : Value) :
    key.fieldName = .ok key.plainText ∨ ∃ fault, key.fieldName = .error (.textless fault) :=
  key.written_eq_ok_or_textless

example : (Value.seq .tuple [.ofInt (-(leastOverlong : Int))]).fieldName =
    .error (.textless .tooManyDigits) := by decide +kernel

theorem eq_plainText_of_fieldName {key : Value} {name : String} (h : key.fieldName = .ok name) :
    name = key.plainText := by
  rcases key.fieldName_eq_ok_or_textless with htext | ⟨fault, hfault⟩
  · exact Except.ok.inj (h.symm.trans htext)
  · rw [hfault] at h
    cases h

theorem named_seq_iff {kind : SeqKind} {items : List Value} :
    (Value.seq kind items).Named ↔ ∀ v ∈ items, v.Named := by
  constructor
  · intro h
    cases h with
    | scalar hs => exact hs.elim
    | seq h => exact h
  · exact Named.seq

theorem named_map_iff {kind : MapKind} {entries : List (Value × Value)} :
    (Value.map kind entries).Named ↔
      ∀ e ∈ entries, e.1.fieldName = .ok e.1.plainText ∧ e.2.Named := by
  constructor
  · intro h e he
    cases h with
    | scalar hs => exact hs.elim
    | map hkeys hvalues =>
      obtain ⟨name, hname⟩ := hkeys e he
      obtain rfl := eq_plainText_of_fieldName hname
      exact ⟨hname, hvalues e he⟩
  · intro h
    exact Named.map (fun e he => ⟨_, (h e he).1⟩) (fun e he => (h e he).2)

end Value

namespace DataType

theorem admitsEntries_iff_fieldsWiden {entries : List (Value × Value)} {gs : List Field}
    (hnamed : ∀ e ∈ entries, e.1.fieldName = .ok e.1.plainText)
    (htypes : ∀ e ∈ entries, ∀ f ∈ gs, f.2.Admits e.2 ↔ e.2.typeOf.WidensTo f.2) :
    AdmitsEntries gs entries ↔ FieldsWiden (entries.map Value.entryField) gs := by
  rw [admitsEntries_iff, fieldsWiden_iff, List.forall_mem_map]
  refine forall₂_congr fun e he => ?_
  constructor
  · rintro ⟨name, t, hname, hmem, ht⟩
    obtain rfl := Value.eq_plainText_of_fieldName hname
    exact ⟨t, hmem, (htypes e he _ hmem).1 ht⟩
  · rintro ⟨t, hmem, ht⟩
    exact ⟨_, t, hnamed e he, hmem, (htypes e he _ hmem).2 ht⟩

theorem fieldsWiden_sort_iff {fs gs : List Field} :
    FieldsWiden (Field.sort fs) gs ↔ FieldsWiden fs gs := by
  simp only [fieldsWiden_iff, (Field.sort_perm fs).mem_iff]

/-- A well-formed type admits a value exactly when the type of the value widens to it. -/
theorem admits_iff {v : Value} (hv : v.Named) {t : DataType} (ht : t.WellFormed) :
    t.Admits v ↔ v.typeOf.WidensTo t := by
  induction v using Value.inductionOn generalizing t with
  | scalar v hs => rw [admits_scalar_iff hs, Value.typeOf_of_isScalar hs]
  | seq kind items ih =>
    rw [Value.named_seq_iff] at hv
    rw [admits_seq_iff, Value.typeOf, array_widensTo_iff, Value.any_isNull_iff]
    refine or_congr_right (exists₂_congr fun e n => and_congr_right ?_)
    rintro rfl
    have hnone : ∀ t ∈ (none : Option DataType), t.WellFormed := by simp
    have hitems : (∀ v ∈ items, e.Admits v) ↔ ∀ v ∈ items, v.typeOf.WidensTo e :=
      forall₂_congr fun v hmem => ih v hmem (hv v hmem) ht.element
    rw [hitems, Value.elementType_widensTo_iff items hnone ht.element]
    simp [WidensTo.null]
  | map kind entries ih =>
    rw [Value.named_map_iff] at hv
    rw [admits_map_iff, Value.typeOf_map, struct_widensTo_iff]
    refine or_congr_right (exists_congr fun gs => and_congr_right ?_)
    rintro rfl
    rw [admitsEntries_iff_fieldsWiden (fun e he => (hv e he).1)
        (fun e he f hf => ih e he (hv e he).2 (ht.of_mem hf)), fieldsWiden_sort_iff,
      FieldTypes.fieldsWiden_merge_iff FieldTypes.Distinct.nil FieldTypes.WellFormed.nil
        (Value.wellFormed_entryFields entries) ht.distinct (fun f hf => ht.of_mem hf)]
    simp [FieldsWiden.nil]

end DataType

end TabularSchema
