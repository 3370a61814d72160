import Mathlib.Data.List.Sort
import Mathlib.Data.String.Basic
import TabularSchema.FieldTypes

/-!
# Looking up fields by name

The statements below say what `get?` gives after an observation, in the part of a list selected by
name, and in a sorted list. Fields whose names ascend are determined by their look-ups
(`Field.Ascending.ext`), so structs are compared through them.
-/

namespace TabularSchema

namespace FieldTypes

@[simp] theorem names_nil : names [] = [] := rfl

@[simp] theorem names_cons (f : Field) (fs : FieldTypes) : names (f :: fs) = f.1 :: names fs := rfl

theorem Distinct.nil : Distinct [] := List.nodup_nil

theorem mem_names_of_mem {f : Field} {fs : FieldTypes} (h : f ∈ fs) : f.1 ∈ names fs :=
  List.mem_map_of_mem h

@[simp] theorem get?_nil (name : String) : get? [] name = none := rfl

theorem get?_cons (f : Field) (fs : FieldTypes) (name : String) :
    get? (f :: fs) name = if f.1 = name then some f.2 else get? fs name := by
  by_cases h : f.1 = name
  · simp [get?, h]
  · simp [get?, h]

@[simp] theorem get?_cons_self (name : String) (t : DataType) (fs : FieldTypes) :
    get? ((name, t) :: fs) name = some t := by
  rw [get?_cons, if_pos rfl]

theorem mem_of_get?_eq_some {fs : FieldTypes} {name : String} {t : DataType}
    (h : get? fs name = some t) : (name, t) ∈ fs := by
  induction fs with
  | nil => simp at h
  | cons f fs ih =>
    rw [get?_cons] at h
    by_cases hf : f.1 = name
    · rw [if_pos hf] at h
      obtain rfl := Option.some.inj h
      rw [← hf]
      exact List.mem_cons_self
    · rw [if_neg hf] at h
      exact List.mem_cons_of_mem _ (ih h)

theorem get?_eq_none_iff {fs : FieldTypes} {name : String} :
    get? fs name = none ↔ name ∉ names fs := by
  induction fs with
  | nil => simp
  | cons f fs ih =>
    rw [get?_cons, names_cons, List.mem_cons]
    by_cases hf : f.1 = name
    · simp [hf]
    · rw [if_neg hf, ih]
      simp [Ne.symm hf]

theorem get?_eq_some_iff {fs : FieldTypes} (hd : Distinct fs) {name : String} {t : DataType} :
    get? fs name = some t ↔ (name, t) ∈ fs := by
  refine ⟨mem_of_get?_eq_some, fun h => ?_⟩
  induction fs with
  | nil => simp at h
  | cons f fs ih =>
    obtain ⟨hf, hfs⟩ := List.nodup_cons.1 hd
    rcases List.mem_cons.1 h with rfl | h
    · exact get?_cons_self _ _ _
    · have hne : f.1 ≠ name := fun e => hf (e ▸ mem_names_of_mem h)
      rw [get?_cons, if_neg hne]
      exact ih hfs h

theorem get?_append (fs gs : FieldTypes) (name : String) :
    get? (fs ++ gs) name = (get? fs name).or (get? gs name) := by
  induction fs with
  | nil => simp
  | cons f fs ih =>
    rw [List.cons_append, get?_cons, get?_cons, ih]
    by_cases hf : f.1 = name
    · simp [hf]
    · simp [hf]

theorem get?_filter (p : String → Bool) (fs : FieldTypes) (name : String) :
    get? (fs.filter (fun f => p f.1)) name = if p name then get? fs name else none := by
  induction fs with
  | nil => simp
  | cons f fs ih =>
    rw [List.filter_cons, get?_cons]
    by_cases hf : f.1 = name
    · rw [hf]
      by_cases hp : p name
      · simp [hp, get?_cons, hf]
      · simp [hp, ih]
    · by_cases hp : p f.1
      · rw [if_pos hp, get?_cons, if_neg hf, if_neg hf, ih]
      · rw [if_neg hp, if_neg hf, ih]

/-- An observation is joined with what was known of its name and leaves the other names alone. -/
theorem get?_observe (fs : FieldTypes) (m : String) (t : DataType) (name : String) :
    get? (fs.observe m t) name =
      if m = name then some ((get? fs name).elim t (·.join t)) else get? fs name := by
  induction fs with
  | nil => rw [observe, get?_cons]; rfl
  | cons f fs ih =>
    rw [observe]
    by_cases hf : f.1 = m
    · rw [if_pos hf, get?_cons, get?_cons, hf]
      by_cases hm : m = name <;> simp [hm]
    · rw [if_neg hf, get?_cons, get?_cons, ih]
      by_cases hn : f.1 = name
      · have hm : m ≠ name := fun e => hf (hn.trans e.symm)
        simp [hn, hm]
      · simp [hn]

end FieldTypes

namespace Field

/-- The names of the fields ascend strictly in code point order. -/
def Ascending (fs : List Field) : Prop := fs.Pairwise (fun f g => f.1 < g.1)

theorem Ascending.nil : Ascending [] := List.Pairwise.nil

theorem ascending_cons {f : Field} {fs : List Field} :
    Ascending (f :: fs) ↔ (∀ g ∈ fs, f.1 < g.1) ∧ Ascending fs := List.pairwise_cons

theorem Ascending.distinct {fs : List Field} (h : Ascending fs) : FieldTypes.Distinct fs :=
  List.Pairwise.map Prod.fst (fun _ _ hlt => ne_of_lt hlt) h

theorem Ascending.filter {fs : List Field} (h : Ascending fs) (p : Field → Bool) :
    Ascending (fs.filter p) := List.Pairwise.filter p h

/-- Fields with ascending names are the same as soon as every name has the same type. -/
theorem Ascending.ext {fs gs : List Field} (hf : Ascending fs) (hg : Ascending gs)
    (h : ∀ name, FieldTypes.get? fs name = FieldTypes.get? gs name) : fs = gs := by
  have : Std.Antisymm (fun f g : Field => f.1 < g.1) :=
    ⟨fun f g hfg hgf => absurd hgf (lt_asymm hfg)⟩
  have : Std.Irrefl (fun f g : Field => f.1 < g.1) := ⟨fun f => lt_irrefl f.1⟩
  refine List.Pairwise.eq_of_mem_iff hf hg (fun f => ?_)
  obtain ⟨name, t⟩ := f
  rw [← FieldTypes.get?_eq_some_iff hf.distinct, ← FieldTypes.get?_eq_some_iff hg.distinct, h]

theorem Ascending.get?_eq_none {fs : List Field} {name : String} (h : ∀ f ∈ fs, name < f.1) :
    FieldTypes.get? fs name = none := by
  rw [FieldTypes.get?_eq_none_iff]
  intro hmem
  obtain ⟨f, hf, rfl⟩ := List.mem_map.1 hmem
  exact lt_irrefl _ (h f hf)

theorem insertSorted_eq_orderedInsert (f : Field) (fs : List Field) :
    insertSorted f fs = fs.orderedInsert (fun f g => f.1 ≤ g.1) f := by
  induction fs with
  | nil => rfl
  | cons g gs ih =>
    rw [insertSorted, List.orderedInsert_cons, ih]
    by_cases h : g.1 < f.1
    · rw [if_pos h, if_neg (not_le.2 h)]
    · rw [if_neg h, if_pos (not_lt.1 h)]

theorem sort_eq_insertionSort (fs : List Field) :
    sort fs = fs.insertionSort (fun f g => f.1 ≤ g.1) := by
  induction fs with
  | nil => rfl
  | cons f fs ih =>
    rw [List.insertionSort_cons, ← ih]
    exact insertSorted_eq_orderedInsert f (sort fs)

theorem sort_perm (fs : List Field) : (sort fs).Perm fs := by
  rw [sort_eq_insertionSort]
  exact List.perm_insertionSort _ fs

/-- The names of the fields are in code point order, where equal names stand together. -/
def Ordered (fs : List Field) : Prop := fs.Pairwise (fun f g => f.1 ≤ g.1)

theorem ordered_cons {f : Field} {fs : List Field} :
    Ordered (f :: fs) ↔ (∀ g ∈ fs, f.1 ≤ g.1) ∧ Ordered fs := List.pairwise_cons

theorem ordered_sort (fs : List Field) : Ordered (sort fs) := by
  have : Std.Total (fun f g : Field => f.1 ≤ g.1) := ⟨fun f g => le_total f.1 g.1⟩
  have : IsTrans Field (fun f g => f.1 ≤ g.1) := ⟨fun _ _ _ => le_trans⟩
  rw [sort_eq_insertionSort]
  exact List.pairwise_insertionSort _ fs

theorem Ordered.ascending {fs : List Field} (h : Ordered fs) (hd : FieldTypes.Distinct fs) :
    Ascending fs :=
  (h.and (List.pairwise_map.1 hd)).imp fun ⟨hle, hne⟩ => lt_of_le_of_ne hle hne

theorem distinct_sort_iff {fs : List Field} :
    FieldTypes.Distinct (sort fs) ↔ FieldTypes.Distinct fs :=
  ((sort_perm fs).map Prod.fst).nodup_iff

theorem ascending_sort {fs : List Field} (hd : FieldTypes.Distinct fs) : Ascending (sort fs) :=
  (ordered_sort fs).ascending (distinct_sort_iff.2 hd)

end Field

end TabularSchema
