import Mathlib.Data.List.Duplicate
import Mathlib.Order.Bounds.Basic
import TabularSchema.Proofs.CheckedStructs

/-!
# Canonical structs

A struct and a schema are refused if two fields share a name. Both constructors go through the
fields and stop at the first name that stands for a second time. A schema takes the fields as they
are given, so it reports the name that repeats first; a struct sorts them before, so it reports the
smallest repeated name. Fields without a repeated name are accepted by both, and they make one
struct in whatever order they are given.
-/

namespace TabularSchema

namespace FieldTypes

instance (fs : FieldTypes) : Decidable fs.Distinct := inferInstanceAs (Decidable fs.names.Nodup)

theorem put_of_not_mem {fs : FieldTypes} {name : String} (h : name ∉ fs.names) (t : DataType) :
    fs.put name t = fs ++ [(name, t)] := by
  rw [DataType.put_of_get?_eq_none (get?_eq_none_iff.2 h), observe_of_not_mem h]

theorem ofPairs_of_distinct {fs : FieldTypes} (h : fs.Distinct) : ofPairs fs = fs := by
  induction fs using List.reverseRecOn with
  | nil => rfl
  | append_singleton fs f ih =>
    obtain ⟨hfs, hnot⟩ := h.of_append_singleton
    have hlast : ofPairs (fs ++ [f]) = (ofPairs fs).put f.1 f.2 := List.foldl_append
    rw [hlast, ih hfs, put_of_not_mem hnot]

end FieldTypes

namespace Field

open FieldTypes (names Distinct)

/-- Two of the fields have the name. -/
def Repeated (fs : List Field) (name : String) : Prop := List.Duplicate name (names fs)

/-- The name is the first to stand for a second time: all names before it are different, and it is
one of them. -/
def FirstRepeated (fs : List Field) (name : String) : Prop :=
  ∃ before t after, fs = before ++ (name, t) :: after ∧ name ∈ names before ∧ Distinct before

instance (fs : List Field) (name : String) : Decidable (Repeated fs name) :=
  List.decidableDuplicate name (names fs)

theorem repeated_sort_iff {fs : List Field} {name : String} :
    Repeated (sort fs) name ↔ Repeated fs name := by
  rw [Repeated, Repeated, List.duplicate_iff_two_le_count, List.duplicate_iff_two_le_count,
    names, names, ((sort_perm fs).map Prod.fst).count_eq]

theorem exists_repeated_iff {fs : List Field} : (∃ name, Repeated fs name) ↔ ¬ Distinct fs :=
  List.exists_duplicate_iff_not_nodup

theorem FirstRepeated.repeated {fs : List Field} {name : String} (h : FirstRepeated fs name) :
    Repeated fs name := by
  obtain ⟨before, t, after, rfl, hmem, -⟩ := h
  have hbefore : [name].Sublist (names before) := List.singleton_sublist.2 hmem
  have hbehind : [name].Sublist (names ((name, t) :: after)) := List.singleton_sublist.2 (by simp)
  rw [Repeated, names, List.map_append, List.duplicate_iff_sublist]
  exact hbefore.append hbehind

/-- In fields that are in order, the first name to stand for a second time is the smallest of those
that do. -/
theorem FirstRepeated.isLeast {fs : List Field} {name : String} (h : FirstRepeated fs name)
    (hordered : Ordered fs) : IsLeast {n | Repeated fs n} name := by
  refine ⟨h.repeated, fun m hm => ?_⟩
  obtain ⟨before, t, after, rfl, -, hbefore⟩ := h
  -- No name stands twice before that place, so every repeated name stands there or behind it.
  have hbehind : m ∈ names ((name, t) :: after) := by
    by_contra hnot
    have hcount : (names (before ++ (name, t) :: after)).count m = (names before).count m := by
      rw [names, List.map_append, List.count_append, ← names, ← names,
        List.count_eq_zero.2 hnot, Nat.add_zero]
    have htwo := List.duplicate_iff_two_le_count.1 hm
    have hone := List.nodup_iff_count_le_one.1 hbefore m
    omega
  obtain ⟨-, htail, -⟩ := List.pairwise_append.1 hordered
  rcases List.mem_cons.1 hbehind with rfl | hmem
  · exact le_rfl
  · obtain ⟨f, hf, rfl⟩ := List.mem_map.1 hmem
    exact (ordered_cons.1 htail).1 f hf

/-- The scan behind names that were seen, the last of them first. -/
theorem firstRepeat_eq_some_iff_of_seen {seen : List String} (hseen : seen.Nodup)
    {fs : List Field} {name : String} :
    firstRepeat seen fs = some name ↔
      ∃ before t after, fs = before ++ (name, t) :: after ∧
        name ∈ (names before).reverse ++ seen ∧ ((names before).reverse ++ seen).Nodup := by
  induction fs generalizing seen with
  | nil => simp [firstRepeat]
  | cons f fs ih =>
    -- A step of the scan moves a name from the front of the fields to the front of those seen.
    have hshift (before : List Field) :
        (names (f :: before)).reverse ++ seen = (names before).reverse ++ f.1 :: seen := by simp
    rw [firstRepeat]
    by_cases hf : f.1 ∈ seen
    · rw [if_pos hf]
      constructor
      · intro h
        obtain rfl := Option.some.inj h
        exact ⟨[], f.2, fs, rfl, hf, hseen⟩
      · rintro ⟨before, t, after, hfs, -, hnodup⟩
        cases before with
        | nil => exact congrArg (some ∘ Prod.fst) (List.cons.inj hfs).1
        | cons g before =>
          obtain ⟨rfl, -⟩ := List.cons.inj hfs
          rw [hshift] at hnodup
          exact absurd hf (List.nodup_cons.1 (List.nodup_append.1 hnodup).2.1).1
    · rw [if_neg hf, ih (List.nodup_cons.2 ⟨hf, hseen⟩)]
      constructor
      · rintro ⟨before, t, after, rfl, hmem, hnodup⟩
        refine ⟨f :: before, t, after, rfl, ?_⟩
        rw [hshift]
        exact ⟨hmem, hnodup⟩
      · rintro ⟨before, t, after, hfs, hmem, hnodup⟩
        cases before with
        | nil =>
          obtain ⟨rfl, -⟩ := List.cons.inj hfs
          exact absurd hmem hf
        | cons g before =>
          obtain ⟨rfl, rfl⟩ := List.cons.inj hfs
          rw [hshift] at hmem hnodup
          exact ⟨before, t, after, rfl, hmem, hnodup⟩

theorem firstRepeat_eq_some_iff {fs : List Field} {name : String} :
    firstRepeat [] fs = some name ↔ FirstRepeated fs name := by
  rw [firstRepeat_eq_some_iff_of_seen List.nodup_nil, FirstRepeated]
  simp only [List.append_nil, List.mem_reverse, List.nodup_reverse, Distinct]

theorem exists_firstRepeated_iff {fs : List Field} :
    (∃ name, FirstRepeated fs name) ↔ ∃ name, Repeated fs name := by
  refine ⟨fun ⟨name, h⟩ => ⟨name, h.repeated⟩, fun h => ?_⟩
  cases hfirst : firstRepeat [] fs with
  | none => exact absurd (nodup_of_firstRepeat fs [] hfirst).1 (exists_repeated_iff.1 h)
  | some name => exact ⟨name, firstRepeat_eq_some_iff.1 hfirst⟩

theorem firstRepeated_sort_iff {fs : List Field} {name : String} :
    FirstRepeated (sort fs) name ↔ IsLeast {n | Repeated fs n} name := by
  have hleast {m : String} (h : FirstRepeated (sort fs) m) : IsLeast {n | Repeated fs n} m := by
    simpa only [repeated_sort_iff] using h.isLeast (ordered_sort fs)
  refine ⟨hleast, fun h => ?_⟩
  obtain ⟨m, hm⟩ := exists_firstRepeated_iff.2 ⟨name, repeated_sort_iff.2 h.1⟩
  rwa [h.unique (hleast hm)]

theorem sort_eq_sort_iff {fs gs : List Field} (hf : Distinct fs) (hg : Distinct gs) :
    sort fs = sort gs ↔ gs.Perm fs := by
  constructor
  · intro h
    exact (sort_perm gs).symm.trans (h ▸ sort_perm fs)
  · intro h
    refine List.Perm.eq_of_pairwise (fun f g _ _ hfg hgf => absurd hgf (lt_asymm hfg))
      (ascending_sort hf) (ascending_sort hg) ?_
    exact (sort_perm fs).trans (h.symm.trans (sort_perm gs).symm)

end Field

namespace Schema

open TabularSchema.Field (Repeated FirstRepeated)

theorem ofFields_eq_error_iff {fs : List Field} {name : String} :
    ofFields fs = .error ⟨name⟩ ↔ FirstRepeated fs name := by
  rw [← Field.firstRepeat_eq_some_iff]
  unfold ofFields
  split
  · next m h => simp [h]
  · next h => simp [h]

theorem ofFields_refused_iff {fs : List Field} :
    (∃ e, ofFields fs = .error e) ↔ ∃ name, Repeated fs name := by
  rw [← Field.exists_firstRepeated_iff]
  constructor
  · rintro ⟨e, he⟩
    exact ⟨e.name, ofFields_eq_error_iff.1 he⟩
  · rintro ⟨name, hname⟩
    exact ⟨⟨name⟩, ofFields_eq_error_iff.2 hname⟩

theorem perm_fields_asStruct (s : Schema) : s.asStruct.fields.Perm s.fields :=
  Field.sort_perm s.fields

theorem distinct_fields_asStruct (s : Schema) : FieldTypes.Distinct s.asStruct.fields :=
  Field.distinct_sort_iff.2 s.distinct

theorem get?_eq_some_iff {s : Schema} {name : String} {t : DataType} :
    s.get? name = some t ↔ (name, t) ∈ s.fields :=
  FieldTypes.get?_eq_some_iff s.distinct

theorem get?_fields_asStruct {s : Schema} {name : String} {t : DataType} :
    FieldTypes.get? s.asStruct.fields name = some t ↔ (name, t) ∈ s.fields := by
  rw [FieldTypes.get?_eq_some_iff s.distinct_fields_asStruct, s.perm_fields_asStruct.mem_iff]

end Schema

namespace DataType

open TabularSchema.Field (Repeated FirstRepeated)

theorem structOf_eq_error_iff {fs : List Field} {name : String} :
    structOf fs = .error ⟨name⟩ ↔ IsLeast {n | Repeated fs n} name := by
  rw [← Field.firstRepeated_sort_iff, ← Field.firstRepeat_eq_some_iff, structOf, Field.checkUnique]
  cases Field.firstRepeat [] (Field.sort fs) with
  | none => simp [Except.map]
  | some m => simp [Except.map]

theorem structOf_refused_iff {fs : List Field} :
    (∃ e, structOf fs = .error e) ↔ ∃ name, Repeated fs name := by
  constructor
  · rintro ⟨e, he⟩
    exact ⟨e.name, (structOf_eq_error_iff.1 he).1⟩
  · rintro ⟨name, hname⟩
    obtain ⟨m, hm⟩ := Field.exists_firstRepeated_iff.2 ⟨name, Field.repeated_sort_iff.2 hname⟩
    exact ⟨⟨m⟩, structOf_eq_error_iff.2 (Field.firstRepeated_sort_iff.1 hm)⟩

theorem distinct_of_structOf {fs : List Field} {t : DataType} (h : structOf fs = .ok t) :
    FieldTypes.Distinct fs := by
  by_contra hrepeated
  obtain ⟨e, he⟩ := structOf_refused_iff.2 (Field.exists_repeated_iff.2 hrepeated)
  rw [h] at he
  cases he

theorem structOf_eq_iff_perm {fs gs : List Field} {t u : DataType} (ht : structOf fs = .ok t)
    (hu : structOf gs = .ok u) : t = u ↔ gs.Perm fs := by
  have hf := distinct_of_structOf ht
  have hg := distinct_of_structOf hu
  obtain rfl := Except.ok.inj ((structOf_of_distinct hf).symm.trans ht)
  obtain rfl := Except.ok.inj ((structOf_of_distinct hg).symm.trans hu)
  rw [struct.injEq, Field.sort_eq_sort_iff hf hg]

/-- A struct is refused exactly if two fields share a name, and the smallest such name is reported;
a schema is refused for the same fields, and the name that repeats first is reported. Two lists of
fields make the same struct exactly if they are rearrangements of each other. Fields that are not
refused make a schema that keeps their order, whose struct is that of the fields; the types by name
are in either exactly those that were given. -/
theorem structOf_canonical (fs gs : List Field) :
    ((∃ e, structOf fs = .error e) ↔ ∃ name, Repeated fs name) ∧
    (∀ name, structOf fs = .error ⟨name⟩ ↔ IsLeast {n | Repeated fs n} name) ∧
    ((∃ e, Schema.ofFields fs = .error e) ↔ ∃ name, Repeated fs name) ∧
    (∀ name, Schema.ofFields fs = .error ⟨name⟩ ↔ FirstRepeated fs name) ∧
    (∀ t u, structOf fs = .ok t → structOf gs = .ok u → (t = u ↔ gs.Perm fs)) ∧
    (¬ (∃ name, Repeated fs name) → ∃ s, Schema.ofFields fs = .ok s ∧ s.fields = fs ∧
      structOf fs = .ok s.asStruct ∧ s.asStruct.fields.Perm fs ∧
      FieldTypes.ofPairs s.asStruct.fields = s.asStruct.fields ∧
      ∀ name t, (FieldTypes.get? s.asStruct.fields name = some t ↔ (name, t) ∈ fs) ∧
        (s.get? name = some t ↔ (name, t) ∈ fs)) := by
  refine ⟨structOf_refused_iff, fun _ => structOf_eq_error_iff, Schema.ofFields_refused_iff,
    fun _ => Schema.ofFields_eq_error_iff, fun _ _ => structOf_eq_iff_perm, fun hnone => ?_⟩
  have hd : FieldTypes.Distinct fs := not_not.1 (mt Field.exists_repeated_iff.2 hnone)
  let s : Schema := ⟨fs, hd⟩
  refine ⟨s, Schema.ofFields_of_distinct hd, rfl, structOf_of_distinct hd, s.perm_fields_asStruct,
    FieldTypes.ofPairs_of_distinct s.distinct_fields_asStruct, fun name t => ?_⟩
  exact ⟨Schema.get?_fields_asStruct, Schema.get?_eq_some_iff⟩

/-- Three fields in two orders, and four fields whose smallest repeated name is not the first to
repeat. -/
theorem structOf_canonical_reordered :
    let fs : List Field := [("b", .string), ("a", .array .null true), ("Z", .integer)]
    let gs : List Field := [("a", .array .null true), ("Z", .integer), ("b", .string)]
    let hs : List Field := [("b", .string), ("c", .null), ("c", .long), ("b", .date)]
    (∃ s, Schema.ofFields fs = .ok s ∧ s.fields = fs ∧ structOf fs = .ok s.asStruct ∧
      structOf gs = .ok s.asStruct ∧ s.asStruct ≠ .struct gs) ∧
    structOf hs = .error ⟨"b"⟩ ∧ Schema.ofFields hs = .error ⟨"c"⟩ := by
  intro fs gs hs
  refine ⟨?_, ?_⟩
  · obtain ⟨-, -, -, -, hsame, haccepted⟩ := structOf_canonical fs gs
    obtain ⟨s, hs, hfields, hstruct, -⟩ := haccepted fun h =>
      Field.exists_repeated_iff.1 h (by decide)
    have hgs : structOf gs = .ok (.struct [("Z", .integer), ("a", .array .null true),
      ("b", .string)]) := by decide
    have heq := (hsame _ _ hstruct hgs).2 (by decide)
    exact ⟨s, hs, hfields, hstruct, heq ▸ hgs, heq ▸ by decide⟩
  · obtain ⟨-, hleast, -, hfirst, -, -⟩ := structOf_canonical hs []
    refine ⟨(hleast "b").2 ⟨by decide, fun name hname => ?_⟩, (hfirst "c").2 ?_⟩
    · have hall : ∀ n ∈ FieldTypes.names hs, "b" ≤ n := by decide
      exact hall name (List.Duplicate.mem hname)
    · exact ⟨[("b", .string), ("c", .null)], .long, [("b", .date)], rfl, by decide, by decide⟩

end DataType

end TabularSchema
