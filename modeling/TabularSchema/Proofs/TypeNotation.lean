import TabularSchema.Proofs.Aggregation

/-!
# The JSON notation can be read back

The reader of the notation accepts exactly what is written for a type over the standard atoms, and
gives that type; so it does for schemas, with the fields in their order. Nothing is lost in the
notation then, and nothing is confused: not the nulls of an array, and no field whose name looks
like a type or like a word of the notation.
-/

namespace TabularSchema

theorem Atom.ofName?_eq_some_iff {name : String} {a : Atom} :
    ofName? name = some a ↔ a ∈ standard ∧ name = a.name := by
  constructor
  · intro h
    have hname := List.find?_some h
    exact ⟨List.mem_of_find?_eq_some h, (beq_iff_eq.1 hname).symm⟩
  · rintro ⟨ha, rfl⟩
    exact (by decide : ∀ a ∈ standard, ofName? a.name = some a) a ha

namespace DataType

mutual

def atoms : DataType → List Atom
  | .atom a => [a]
  | .array e _ => atoms e
  | .struct fs => fieldAtoms fs

def fieldAtoms : List (String × DataType) → List Atom
  | [] => []
  | (_, t) :: fs => atoms t ++ fieldAtoms fs

end

def Standard (t : DataType) : Prop := ∀ a ∈ t.atoms, a ∈ Atom.standard

instance (t : DataType) : Decidable t.Standard :=
  inferInstanceAs (Decidable (∀ a ∈ t.atoms, a ∈ Atom.standard))

theorem standard_atom_iff {a : Atom} : (atom a).Standard ↔ a ∈ Atom.standard := by
  simp [Standard, atoms]

theorem standard_array_iff {e : DataType} {n : Bool} : (array e n).Standard ↔ e.Standard := by
  simp [Standard, atoms]

theorem standard_struct_iff {fs : List Field} :
    (struct fs).Standard ↔ ∀ f ∈ fs, f.2.Standard := by
  simp only [Standard, atoms]
  induction fs with
  | nil => simp [fieldAtoms]
  | cons f fs ih => rw [fieldAtoms, List.forall_mem_append, List.forall_mem_cons, ih]

theorem fieldsOfJson?_fieldsToJson {fs : List Field}
    (h : ∀ f ∈ fs, ofJson? f.2.toJson = some f.2) : fieldsOfJson? (fieldsToJson fs) = some fs := by
  induction fs with
  | nil => rfl
  | cons f fs ih =>
    obtain ⟨name, t⟩ := f
    obtain ⟨ht, hfs⟩ := List.forall_mem_cons.1 h
    have ht : ofJson? t.toJson = some t := ht
    rw [fieldsToJson, fieldsOfJson?, ht, ih hfs]
    rfl

theorem ofJson?_toJson {t : DataType} (ht : t.Standard) : ofJson? t.toJson = some t := by
  induction t using inductionOn with
  | atom a =>
    rw [toJson, ofJson?, Atom.ofName?_eq_some_iff.2 ⟨standard_atom_iff.1 ht, rfl⟩]
    rfl
  | array e n ih =>
    rw [toJson, ofJson?, ih (standard_array_iff.1 ht)]
    rfl
  | struct fs ih =>
    have hfields : ∀ f ∈ fs, ofJson? f.2.toJson = some f.2 := fun f hf =>
      ih f hf (standard_struct_iff.1 ht f hf)
    rw [toJson, ofJson?, fieldsOfJson?_fieldsToJson hfields]
    rfl

theorem written_of_read :
    (∀ j t, ofJson? j = some t → t.Standard ∧ j = t.toJson) ∧
      ∀ js fs, fieldsOfJson? js = some fs → (∀ f ∈ fs, f.2.Standard) ∧ js = fieldsToJson fs := by
  apply ofJson?.mutual_induct
  case case1 =>
    intro name t h
    rw [ofJson?] at h
    obtain ⟨a, ha, rfl⟩ := Option.map_eq_some_iff.1 h
    obtain ⟨hstandard, rfl⟩ := Atom.ofName?_eq_some_iff.1 ha
    exact ⟨standard_atom_iff.2 hstandard, by rw [toJson]⟩
  case case2 =>
    intro e n ih t h
    rw [ofJson?] at h
    obtain ⟨u, hu, rfl⟩ := Option.map_eq_some_iff.1 h
    obtain ⟨hstandard, rfl⟩ := ih u hu
    exact ⟨standard_array_iff.2 hstandard, by rw [toJson]⟩
  case case3 =>
    intro items ih t h
    rw [ofJson?] at h
    obtain ⟨fs, hfs, rfl⟩ := Option.map_eq_some_iff.1 h
    obtain ⟨hstandard, rfl⟩ := ih fs hfs
    exact ⟨standard_struct_iff.2 hstandard, by rw [toJson]⟩
  case case4 =>
    intro j htext harray hstruct t h
    rw [ofJson?.eq_4 j htext harray hstruct] at h
    cases h
  case case5 =>
    intro fs h
    obtain rfl := Option.some.inj h
    exact ⟨by simp, rfl⟩
  case case6 =>
    intro name j items ihj ihs fs h
    rw [fieldsOfJson?] at h
    obtain ⟨t, ht, h⟩ := Option.bind_eq_some_iff.1 h
    obtain ⟨gs, hgs, h⟩ := Option.bind_eq_some_iff.1 h
    obtain rfl := Option.some.inj h
    obtain ⟨hstandard, rfl⟩ := ihj t ht
    obtain ⟨hall, rfl⟩ := ihs gs hgs
    exact ⟨List.forall_mem_cons.2 ⟨hstandard, hall⟩, by rw [fieldsToJson]⟩
  case case7 =>
    intro js hnil hcons fs h
    rw [fieldsOfJson?.eq_3 js hnil hcons] at h
    cases h

/-- The reader accepts what is written for a type over the standard atoms, and nothing else. -/
theorem ofJson?_eq_some_iff {j : Json} {t : DataType} :
    ofJson? j = some t ↔ t.Standard ∧ j = t.toJson := by
  constructor
  · exact written_of_read.1 j t
  · rintro ⟨ht, rfl⟩
    exact ofJson?_toJson ht

end DataType

namespace Schema

def Standard (s : Schema) : Prop := ∀ f ∈ s.fields, f.2.Standard

instance (s : Schema) : Decidable s.Standard :=
  inferInstanceAs (Decidable (∀ f ∈ s.fields, f.2.Standard))

theorem ofFields_eq_ok_iff {fs : List Field} {s : Schema} :
    ofFields fs = .ok s ↔ s.fields = fs := by
  constructor
  · intro h
    unfold ofFields at h
    split at h
    · cases h
    · rw [← Except.ok.inj h]
  · rintro rfl
    exact ofFields_of_distinct s.distinct

theorem ofJson?_struct {items : List Json} {s : Schema} :
    ofJson? (.object [("type", .text "struct"), ("fields", .array items)]) = some s ↔
      DataType.fieldsOfJson? items = some s.fields := by
  have htoOption {x : Except DuplicateField Schema} : x.toOption = some s ↔ x = .ok s := by
    cases x <;> simp [Except.toOption]
  rw [ofJson?]
  constructor
  · intro h
    obtain ⟨fs, hfs, h⟩ := Option.bind_eq_some_iff.1 h
    rw [htoOption, ofFields_eq_ok_iff] at h
    rw [hfs, h]
  · intro h
    refine Option.bind_eq_some_iff.2 ⟨s.fields, h, ?_⟩
    rw [htoOption, ofFields_eq_ok_iff]

theorem ofJson?_eq_some_iff {j : Json} {s : Schema} :
    ofJson? j = some s ↔ s.Standard ∧ j = s.toJson := by
  constructor
  · intro h
    unfold ofJson? at h
    split at h
    · next items =>
      obtain ⟨hstandard, rfl⟩ :=
        DataType.written_of_read.2 items s.fields (ofJson?_struct.1 h)
      exact ⟨hstandard, rfl⟩
    · cases h
  · rintro ⟨hs, rfl⟩
    exact ofJson?_struct.2 (DataType.fieldsOfJson?_fieldsToJson fun f hf =>
      DataType.ofJson?_toJson (hs f hf))

end Schema

namespace DataType

/-- What is written for a type over the standard atoms is read back as that type, what is written
for a schema as that schema, and nothing else can be read. Only equal types, and equal schemas, are
written alike. -/
theorem toJson_read_back :
    (∀ (j : Json) (t : DataType), ofJson? j = some t ↔ t.Standard ∧ j = t.toJson) ∧
    (∀ (j : Json) (s : Schema), Schema.ofJson? j = some s ↔ s.Standard ∧ j = s.toJson) ∧
    (∀ t u : DataType, t.Standard → u.Standard → t.toJson = u.toJson → t = u) ∧
    (∀ s s' : Schema, s.Standard → s'.Standard → s.toJson = s'.toJson → s = s') := by
  refine ⟨fun _ _ => ofJson?_eq_some_iff, fun _ _ => Schema.ofJson?_eq_some_iff, ?_, ?_⟩
  · intro t u ht hu h
    have hread := ofJson?_eq_some_iff.2 ⟨ht, rfl⟩
    rw [h, ofJson?_eq_some_iff.2 ⟨hu, rfl⟩] at hread
    exact (Option.some.inj hread).symm
  · intro s s' hs hs' h
    have hread := Schema.ofJson?_eq_some_iff.2 ⟨hs, rfl⟩
    rw [h, Schema.ofJson?_eq_some_iff.2 ⟨hs', rfl⟩] at hread
    exact (Option.some.inj hread).symm

/-- Fields named like types and like words of the notation, in the order of a schema. -/
theorem toJson_read_back_keywords :
    let t : DataType := .struct [("", .null), ("array", .array (.struct [("type", .decimal)]) true)]
    let s : Schema := ⟨[("struct", t), ("containsNull", .array t false), ("", .boolean)], by decide⟩
    t.WellFormed ∧ ofJson? t.toJson = some t ∧ Schema.ofJson? s.toJson = some s ∧
      (array t false).toJson ≠ (array t true).toJson := by
  intro t s
  obtain ⟨htypes, hschemas, hinjective, -⟩ := toJson_read_back
  refine ⟨by decide, (htypes _ t).2 ⟨by decide, rfl⟩, (hschemas _ s).2 ⟨by decide, rfl⟩, ?_⟩
  intro h
  have heq := hinjective (array t false) (array t true) (by decide) (by decide) h
  cases heq

end DataType

end TabularSchema
