import TabularSchema.Proofs.TypeNotation

/-!
# What the short notation tells apart

The short notation has no quotes: a field name ends at a colon, and a type at a comma or an angle
bracket. Each type opens with a word, and of these words none begins another, so a type can be read
off the front of a text without looking further, also where a comma stands inside a word. If no name
holds a delimiter, then the notation leaves out only whether arrays contain null, for types as well
as for schemas with their order of fields.
-/

namespace TabularSchema

theorem Atom.eq_of_shortName_eq :
    ∀ a ∈ Atom.standard, ∀ b ∈ Atom.standard, a.shortName = b.shortName → a = b := by decide

theorem Atom.shortName_ne_word :
    ∀ a ∈ Atom.standard, a.shortName ≠ "array<" ∧ a.shortName ≠ "struct<" := by decide

namespace DataType

mutual

/-- The type where no array is said to contain null. -/
def forgetNulls : DataType → DataType
  | .atom a => .atom a
  | .array e _ => .array (forgetNulls e) false
  | .struct fs => .struct (forgetFieldNulls fs)

def forgetFieldNulls : List (String × DataType) → List (String × DataType)
  | [] => []
  | (n, t) :: fs => (n, forgetNulls t) :: forgetFieldNulls fs

end

theorem map_fst_forgetFieldNulls (fs : List Field) :
    (forgetFieldNulls fs).map Prod.fst = fs.map Prod.fst := by
  induction fs with
  | nil => rfl
  | cons f fs ih => rw [forgetFieldNulls, List.map_cons, List.map_cons, ih]

mutual

def innerNames : DataType → List String
  | .atom _ => []
  | .array e _ => innerNames e
  | .struct fs => innerFieldNames fs

def innerFieldNames : List (String × DataType) → List String
  | [] => []
  | (n, t) :: fs => n :: (innerNames t ++ innerFieldNames fs)

end

/-- The characters that end a part of the short notation. -/
def delimiters : List Char := [':', ',', '<', '>']

def LegibleName (n : String) : Prop := ∀ c ∈ n.toList, c ∉ delimiters

-- Given as a term, since instance search may find the one that tries every character there is.
instance : DecidablePred LegibleName := fun n => List.decidableBAll (· ∉ delimiters) n.toList

def Legible (t : DataType) : Prop := ∀ n ∈ t.innerNames, LegibleName n

instance (t : DataType) : Decidable t.Legible := List.decidableBAll LegibleName t.innerNames

theorem LegibleName.not_mem {n : String} (h : LegibleName n) {c : Char} (hc : c ∈ delimiters) :
    c ∉ n.toList := fun hmem => h c hmem hc

theorem legible_array_iff {e : DataType} {n : Bool} : (array e n).Legible ↔ e.Legible := by
  simp [Legible, innerNames]

theorem legible_struct_iff {fs : List Field} :
    (struct fs).Legible ↔ ∀ f ∈ fs, LegibleName f.1 ∧ f.2.Legible := by
  simp only [Legible, innerNames]
  induction fs with
  | nil => simp [innerFieldNames]
  | cons f fs ih =>
    rw [innerFieldNames, List.forall_mem_cons, List.forall_mem_append, List.forall_mem_cons, ih,
      and_assoc]

theorem simple_forgetNulls (t : DataType) : t.forgetNulls.simple = t.simple := by
  induction t using inductionOn with
  | atom a => rw [forgetNulls]
  | array e n ih => rw [forgetNulls, simple, simple, ih]
  | struct fs ih =>
    have hfields : simpleFields (forgetFieldNulls fs) = simpleFields fs := by
      induction fs with
      | nil => rfl
      | cons f fs ihs =>
        obtain ⟨hf, hfs⟩ := List.forall_mem_cons.1 ih
        rw [forgetFieldNulls, simpleFields, simpleFields, hf, ihs hfs]
    rw [forgetNulls, simple, simple, hfields]

/-! ### The words that open a type -/

/-- The word that the notation of a type opens with. -/
def opening : DataType → String
  | .atom a => a.shortName
  | .array _ _ => "array<"
  | .struct _ => "struct<"

/-- The words that the notation of a type over the standard atoms can open with. -/
def openings : List String := Atom.standard.map Atom.shortName ++ ["array<", "struct<"]

theorem openings_prefix_free :
    ∀ v ∈ openings, ∀ w ∈ openings, v.toList <+: w.toList → v = w := by decide +kernel

theorem opening_mem_openings {t : DataType} (ht : t.Standard) : t.opening ∈ openings := by
  cases t with
  | atom a =>
    have ha : a.shortName ∈ Atom.standard.map Atom.shortName :=
      List.mem_map_of_mem (standard_atom_iff.1 ht)
    exact List.mem_append_left _ ha
  | array e n => exact List.mem_append_right _ (by simp [opening])
  | struct fs => exact List.mem_append_right _ (by simp [opening])

theorem opening_prefix_simple (t : DataType) : t.opening.toList <+: t.simple.toList := by
  cases t with
  | atom a => exact List.prefix_rfl
  | array e n =>
    rw [opening, simple, String.append_assoc, String.toList_append]
    exact List.prefix_append _ _
  | struct fs =>
    rw [opening, simple, String.append_assoc, String.toList_append]
    exact List.prefix_append _ _

/-- Two types at the front of one text open with the same word. -/
theorem opening_eq {t u : DataType} (ht : t.Standard) (hu : u.Standard) {r s : List Char}
    (h : t.simple.toList ++ r = u.simple.toList ++ s) : t.opening = u.opening := by
  have htext : t.opening.toList <+: u.simple.toList ++ s := by
    rw [← h]
    exact (opening_prefix_simple t).trans (List.prefix_append _ _)
  have huext : u.opening.toList <+: u.simple.toList ++ s :=
    (opening_prefix_simple u).trans (List.prefix_append _ _)
  rcases List.prefix_or_prefix_of_prefix htext huext with hpre | hpre
  · exact openings_prefix_free _ (opening_mem_openings ht) _ (opening_mem_openings hu) hpre
  · exact (openings_prefix_free _ (opening_mem_openings hu) _ (opening_mem_openings ht) hpre).symm

/-! ### Reading types and fields off the front of a text -/

theorem simple_array_append (e : DataType) (n : Bool) (r : List Char) :
    (array e n).simple.toList ++ r = "array<".toList ++ (e.simple.toList ++ '>' :: r) := by
  rw [simple, String.toList_append, String.toList_append, List.append_assoc, List.append_assoc]
  rfl

def fieldChars (fs : List Field) : List Char := (",".intercalate (simpleFields fs)).toList

theorem simple_struct_append (fs : List Field) (r : List Char) :
    (struct fs).simple.toList ++ r = "struct<".toList ++ (fieldChars fs ++ '>' :: r) := by
  rw [simple, String.toList_append, String.toList_append, List.append_assoc, List.append_assoc]
  rfl

def behindField : List Field → List Char
  | [] => []
  | f :: fs => ',' :: fieldChars (f :: fs)

theorem fieldChars_cons (f : Field) (fs : List Field) :
    fieldChars (f :: fs) = f.1.toList ++ ':' :: (f.2.simple.toList ++ behindField fs) := by
  have hfield : (f.1 ++ ":" ++ f.2.simple).toList = f.1.toList ++ ':' :: f.2.simple.toList := by
    rw [String.toList_append, String.toList_append, List.append_assoc]
    rfl
  rw [fieldChars, simpleFields]
  cases fs with
  | nil =>
    rw [simpleFields, String.intercalate_singleton, hfield, behindField, List.append_nil]
  | cons g fs =>
    rw [simpleFields, String.intercalate_cons_cons, String.toList_append, String.toList_append,
      hfield, List.append_assoc, List.append_assoc, List.cons_append]
    rfl

theorem append_colon_inj {m n : List Char} (hm : ':' ∉ m) (hn : ':' ∉ n) {r s : List Char}
    (h : m ++ ':' :: r = n ++ ':' :: s) : m = n ∧ r = s := by
  induction m generalizing n with
  | nil =>
    cases n with
    | nil => exact ⟨rfl, (List.cons.inj h).2⟩
    | cons c n => exact absurd (List.cons.inj h).1 (List.ne_of_not_mem_cons hn)
  | cons c m ih =>
    cases n with
    | nil => exact absurd (List.cons.inj h).1.symm (List.ne_of_not_mem_cons hm)
    | cons d n =>
      obtain ⟨rfl, htail⟩ := List.cons.inj h
      obtain ⟨rfl, hrest⟩ :=
        ih (List.not_mem_of_not_mem_cons hm) (List.not_mem_of_not_mem_cons hn) htail
      exact ⟨rfl, hrest⟩

/-- A field opens with no bracket, so the fields of a struct do not look like its end. -/
theorem fieldChars_cons_ne {f : Field} (hf : LegibleName f.1) (fs : List Field) (r s : List Char) :
    fieldChars (f :: fs) ++ r ≠ '>' :: s := by
  intro h
  rw [fieldChars_cons, List.append_assoc] at h
  cases hname : f.1.toList with
  | nil =>
    rw [hname] at h
    exact absurd (List.cons.inj h).1 (by decide)
  | cons c cs =>
    rw [hname] at h
    have hbracket : '>' ∈ f.1.toList := by
      rw [hname, (List.cons.inj h).1]
      exact List.mem_cons_self
    exact hf.not_mem (by decide) hbracket

/-- The type can be read off the front of a text: any type that the text opens with is the same but
for nulls, and leaves the same rest. -/
def ReadsOff (t : DataType) : Prop :=
  ∀ u : DataType, u.Standard → u.Legible → ∀ r s : List Char,
    t.simple.toList ++ r = u.simple.toList ++ s → t.forgetNulls = u.forgetNulls ∧ r = s

theorem fields_readOff {fs gs : List Field} (hread : ∀ f ∈ fs, f.2.ReadsOff)
    (hfs : ∀ f ∈ fs, LegibleName f.1) (hstandard : ∀ g ∈ gs, g.2.Standard)
    (hgs : ∀ g ∈ gs, LegibleName g.1 ∧ g.2.Legible) {r s : List Char}
    (h : fieldChars fs ++ '>' :: r = fieldChars gs ++ '>' :: s) :
    forgetFieldNulls fs = forgetFieldNulls gs ∧ r = s := by
  induction fs generalizing gs with
  | nil =>
    cases gs with
    | nil => exact ⟨rfl, (List.cons.inj h).2⟩
    | cons g gs => exact absurd h.symm (fieldChars_cons_ne (hgs g List.mem_cons_self).1 gs _ _)
  | cons f fs ih =>
    obtain ⟨hf, hfs⟩ := List.forall_mem_cons.1 hfs
    obtain ⟨hreadf, hreadfs⟩ := List.forall_mem_cons.1 hread
    cases gs with
    | nil => exact absurd h (fieldChars_cons_ne hf fs _ _)
    | cons g gs =>
      obtain ⟨⟨hg, hlegible⟩, hgs⟩ := List.forall_mem_cons.1 hgs
      obtain ⟨hstandardg, hstandard⟩ := List.forall_mem_cons.1 hstandard
      rw [fieldChars_cons, fieldChars_cons, List.append_assoc, List.append_assoc,
        List.cons_append, List.cons_append, List.append_assoc, List.append_assoc] at h
      obtain ⟨hname, htypes⟩ := append_colon_inj (hf.not_mem (by decide)) (hg.not_mem (by decide)) h
      obtain ⟨htype, hrest⟩ := hreadf g.2 hstandardg hlegible _ _ htypes
      have hrest' : forgetFieldNulls fs = forgetFieldNulls gs ∧ r = s := by
        -- Behind a field stands a comma where there are more of them, and a bracket where not.
        cases fs with
        | nil =>
          cases gs with
          | nil => exact ⟨rfl, (List.cons.inj hrest).2⟩
          | cons g' gs => exact absurd (List.cons.inj hrest).1 (by decide)
        | cons f' fs =>
          cases gs with
          | nil => exact absurd (List.cons.inj hrest).1 (by decide)
          | cons g' gs => exact ih hreadfs hfs hstandard hgs (List.cons.inj hrest).2
      obtain ⟨hfields, hr⟩ := hrest'
      rw [forgetFieldNulls, forgetFieldNulls, String.toList_inj.1 hname, htype, hfields]
      exact ⟨rfl, hr⟩

/-- The notation of a type ends where it ends, whatever follows it. -/
theorem readsOff {t : DataType} (ht : t.Standard) (hlegible : t.Legible) : t.ReadsOff := by
  induction t using inductionOn with
  | atom a =>
    intro u hu _ r s h
    have hopening := opening_eq ht hu h
    cases u with
    | atom b =>
      obtain rfl :=
        Atom.eq_of_shortName_eq a (standard_atom_iff.1 ht) b (standard_atom_iff.1 hu) hopening
      exact ⟨rfl, List.append_cancel_left h⟩
    | array e n => exact absurd hopening (Atom.shortName_ne_word a (standard_atom_iff.1 ht)).1
    | struct fs => exact absurd hopening (Atom.shortName_ne_word a (standard_atom_iff.1 ht)).2
  | array e n ih =>
    intro u hu hulegible r s h
    have hopening := opening_eq ht hu h
    cases u with
    | atom b => exact absurd hopening.symm (Atom.shortName_ne_word b (standard_atom_iff.1 hu)).1
    | array e' n' =>
      rw [simple_array_append, simple_array_append, List.append_cancel_left_eq] at h
      obtain ⟨helement, hrest⟩ :=
        ih (standard_array_iff.1 ht) (legible_array_iff.1 hlegible) e' (standard_array_iff.1 hu)
          (legible_array_iff.1 hulegible) _ _ h
      rw [forgetNulls, forgetNulls, helement]
      exact ⟨rfl, (List.cons.inj hrest).2⟩
    | struct fs => exact absurd hopening (by simp [opening])
  | struct fs ih =>
    intro u hu hulegible r s h
    have hopening := opening_eq ht hu h
    cases u with
    | atom b => exact absurd hopening.symm (Atom.shortName_ne_word b (standard_atom_iff.1 hu)).2
    | array e n => exact absurd hopening (by simp [opening])
    | struct gs =>
      rw [legible_struct_iff] at hlegible hulegible
      rw [standard_struct_iff] at ht hu
      rw [simple_struct_append, simple_struct_append, List.append_cancel_left_eq] at h
      have hread : ∀ f ∈ fs, f.2.ReadsOff := fun f hf => ih f hf (ht f hf) (hlegible f hf).2
      obtain ⟨hfields, hrest⟩ :=
        fields_readOff hread (fun f hf => (hlegible f hf).1) hu hulegible h
      rw [forgetNulls, forgetNulls, hfields]
      exact ⟨rfl, hrest⟩

theorem simple_eq_iff {t u : DataType} (ht : t.Standard) (hu : u.Standard) (htl : t.Legible)
    (hul : u.Legible) : t.simple = u.simple ↔ t.forgetNulls = u.forgetNulls := by
  constructor
  · intro h
    exact (readsOff ht htl u hu hul [] [] (by rw [h])).1
  · intro h
    rw [← simple_forgetNulls t, h, simple_forgetNulls u]

end DataType

namespace Schema

def forgetNulls (s : Schema) : Schema where
  fields := DataType.forgetFieldNulls s.fields
  distinct := by
    rw [DataType.map_fst_forgetFieldNulls]
    exact s.distinct

def Legible (s : Schema) : Prop := (DataType.struct s.fields).Legible

instance (s : Schema) : Decidable s.Legible :=
  inferInstanceAs (Decidable (DataType.struct s.fields).Legible)

theorem forgetNulls_eq_iff {s s' : Schema} :
    s.forgetNulls = s'.forgetNulls ↔
      (DataType.struct s.fields).forgetNulls = (DataType.struct s'.fields).forgetNulls := by
  rw [Schema.mk.injEq, DataType.forgetNulls, DataType.forgetNulls, DataType.struct.injEq]
  exact Iff.rfl

theorem simple_eq_iff {s s' : Schema} (hs : s.Standard) (hs' : s'.Standard) (hl : s.Legible)
    (hl' : s'.Legible) : s.simple = s'.simple ↔ s.forgetNulls = s'.forgetNulls := by
  rw [forgetNulls_eq_iff]
  exact DataType.simple_eq_iff (DataType.standard_struct_iff.2 hs)
    (DataType.standard_struct_iff.2 hs') hl hl'

end Schema

namespace DataType

/-- Types over the standard atoms whose names hold no delimiter are written alike in the short
notation exactly if they differ in nothing but the nulls of arrays, and so are schemas, which keep
the order of their fields. -/
theorem simple_eq_iff_forgetNulls_eq :
    (∀ t u : DataType, t.Standard → u.Standard → t.Legible → u.Legible →
      (t.simple = u.simple ↔ t.forgetNulls = u.forgetNulls)) ∧
    (∀ s s' : Schema, s.Standard → s'.Standard → s.Legible → s'.Legible →
      (s.simple = s'.simple ↔ s.forgetNulls = s'.forgetNulls)) :=
  ⟨fun _ _ => simple_eq_iff, fun _ _ => Schema.simple_eq_iff⟩

/-- A comma inside a word, an empty name, names like words of the notation, and a struct without
fields: only the nulls of the array are not told apart, and a field moved out of a struct is. -/
theorem simple_eq_iff_forgetNulls_eq_nested :
    let t (n : Bool) : DataType :=
      .struct [("", .decimal), ("18)", .array (.struct []) n), ("struct", .struct [("a", .null)])]
    let moved : DataType :=
      .struct [("", .decimal), ("18)", .array (.struct []) false), ("a", .null),
        ("struct", .struct [])]
    let s (n : Bool) : Schema := ⟨[("int", t n), ("array", .array .decimal n)], by simp⟩
    let s' : Schema := ⟨[("array", .array .decimal false), ("int", t false)], by decide⟩
    (t true).simple = "struct<:decimal(38,18),18):array<struct<>>,struct:struct<a:null>>" ∧
      t true ≠ t false ∧ (t true).simple = (t false).simple ∧ (t true).simple ≠ moved.simple ∧
      (s true).simple = (s false).simple ∧ (s true).simple ≠ s'.simple := by
  intro t moved s s'
  obtain ⟨htypes, hschemas⟩ := simple_eq_iff_forgetNulls_eq
  refine ⟨by decide +kernel, by decide, ?_, ?_, ?_, ?_⟩
  · exact (htypes _ _ (by decide) (by decide) (by decide) (by decide)).2 (by decide)
  · exact mt (htypes _ _ (by decide) (by decide) (by decide) (by decide)).1 (by decide)
  · exact (hschemas _ _ (by decide) (by decide) (by decide) (by decide)).2 (by decide)
  · exact mt (hschemas _ _ (by decide) (by decide) (by decide) (by decide)).1 (by decide)

end DataType

end TabularSchema
