import Mathlib.Data.List.Forall2
import TabularSchema.Proofs.DecimalValue
import TabularSchema.Proofs.LeastBound
import TabularSchema.Proofs.Partition
import TabularSchema.Proofs.Sequencing

/-!
# A larger sample widens the schema

Whether a document is kept depends on its place, the seed and the ratio, and a document that one
ratio keeps is kept by every larger one, also where the larger one keeps everything without a draw.
So the documents examined at a ratio are among those examined at a larger ratio, and the schema of
the former widens to that of the latter.
-/

namespace TabularSchema

theorem Decimal.lt_of_lt_of_le {a b c : Decimal} (hab : a.lt b = true) (hbc : b.le c = true) :
    a.lt c = true := by
  cases a with
  | nan => simp [lt] at hab
  | infinity s => cases b <;> cases c <;> simp_all [lt, le, isNaN]
  | finite s m e =>
    cases b with
    | nan => simp [lt] at hab
    | infinity t => cases c <;> simp_all [lt, le, isNaN]
    | finite t k f =>
      cases c with
      | nan => simp [le, isNaN] at hbc
      | infinity u => simpa [lt, le, isNaN] using hbc
      | finite u n g =>
        have hlt := (lt_iff (toRat?_finite s m e) (toRat?_finite t k f)).1 hab
        have hle := (le_iff (toRat?_finite t k f) (toRat?_finite u n g)).1 hbc
        exact (lt_iff (toRat?_finite s m e) (toRat?_finite u n g)).2 (hlt.trans_le hle)

theorem Decimal.le_trans {a b c : Decimal} (hab : a.le b = true) (hbc : b.le c = true) :
    a.le c = true := by
  have hnan {x y : Decimal} (h : x.le y = true) : x.isNaN = false ∧ y.isNaN = false := by
    simp only [le, Bool.and_eq_true, Bool.not_eq_true'] at h
    exact h.1
  rw [le, (hnan hab).1, (hnan hbc).2]
  simp only [Bool.not_false, Bool.true_and, Bool.not_eq_true', ← Bool.not_eq_true]
  intro hca
  have hcb := lt_of_lt_of_le hca hab
  simp [le, hcb] at hbc

namespace Sampling

theorem acceptRatio_eq_ok {v : Value} {r : Decimal} (hv : v.number? = some r)
    (hzero : (Decimal.ofInt 0).le r = true) (hone : r.le (Decimal.ofInt 1) = true) :
    acceptRatio v = .ok r := by
  have hnan : r.isNaN = false := by
    cases r with
    | nan => simp [Decimal.le, Decimal.isNaN] at hone
    | _ => rfl
  rw [acceptRatio, hv]
  simp [hnan, inUnitInterval, hzero, hone]

/-- The second marks are on the same documents as the first, and select all that those select. -/
def Covers {α : Type} (ms ns : List (α × Bool)) : Prop :=
  List.Forall₂ (fun m n => m.1 = n.1 ∧ (m.2 = true → n.2 = true)) ms ns

theorem Covers.kept_sublist {α : Type} {ms ns : List (α × Bool)} (h : Covers ms ns) :
    (kept ms).Sublist (kept ns) := by
  induction h with
  | nil => exact List.Sublist.refl _
  | @cons m n ms ns hmn _ ih =>
    obtain ⟨d, selected⟩ := m
    obtain ⟨d', selected'⟩ := n
    obtain ⟨rfl, himp⟩ := hmn
    cases selected with
    | true =>
      obtain rfl := himp rfl
      exact ih.cons_cons d
    | false =>
      cases selected' with
      | true => exact ih.cons d
      | false => exact ih

section Ratios

variable {r₁ r₂ : Decimal} (hle : r₁.le r₂ = true)
include hle

theorem isFullScan_of_le (h : isFullScan r₁ = true) : isFullScan r₂ = true :=
  Decimal.lt_of_lt_of_le h hle

theorem drawEach_covers {α : Type} (g : Generator) (ds : List α) :
    Covers (drawEach g r₁ ds) (drawEach g r₂ ds) := by
  induction ds generalizing g with
  | nil => exact List.Forall₂.nil
  | cons d ds ih =>
    -- Both runs make the same draw here and go on with the same generator.
    refine List.Forall₂.cons ⟨rfl, fun hlt => ?_⟩ (ih g.draw.2)
    exact Decimal.lt_of_lt_of_le hlt hle

theorem mark_covers {α : Type} (seed : Int) (ds : List α) :
    Covers (mark r₁ seed ds) (mark r₂ seed ds) := by
  by_cases hfull : isFullScan r₂ = true
  · have hfst := map_fst_mark r₁ seed ds
    have hall : mark r₂ seed ds = (mark r₁ seed ds).map fun m => (m.1, true) := by
      conv_lhs => rw [mark, if_pos hfull, ← hfst]
      rw [List.map_map]
      rfl
    rw [hall, Covers, List.forall₂_map_right_iff]
    exact List.forall₂_same.2 fun m _ => ⟨rfl, fun _ => rfl⟩
  · have hnot : ¬ isFullScan r₁ = true := fun h => hfull (isFullScan_of_le hle h)
    rw [mark, mark, if_neg hnot, if_neg hfull]
    exact drawEach_covers hle _ ds

theorem sample_sublist_sample {α : Type} (seed : Int) (ds : List α) :
    (sample r₁ seed ds).Sublist (sample r₂ seed ds) :=
  (mark_covers hle seed ds).kept_sublist

end Ratios

end Sampling

theorem DataType.join_eq_right_of_widensTo {a b : DataType} (ha : a.WellFormed) (hb : b.WellFormed)
    (h : a.WidensTo b) : a.join b = b :=
  congrArg Subtype.val (sup_eq_right.2 (show (⟨a, ha⟩ : WellFormedType) ≤ ⟨b, hb⟩ from h))

theorem FieldTypes.mergedStruct_widensTo_of_subset {gs hs : List Field} (hg : WellFormed gs)
    (hh : WellFormed hs) (h : gs ⊆ hs) : (mergedStruct gs).WidensTo (mergedStruct hs) := by
  have hwf := wellFormed_mergedStruct hh
  have hrefl := DataType.WidensTo.refl (mergedStruct hs)
  rcases (mergedStruct_widensTo_iff hh hwf).1 hrefl with hstring | ⟨fs, hfs, hall⟩
  · cases hstring
  · exact (mergedStruct_widensTo_iff hg hwf).2 (Or.inr ⟨fs, hfs, fun f hf => hall f (h hf)⟩)

theorem Schema.fieldsWiden_of_asStruct {s s' : Schema} (h : s.asStruct.WidensTo s'.asStruct) :
    ∀ f ∈ s.fields, ∃ u, (f.1, u) ∈ s'.fields ∧ f.2.WidensTo u := by
  intro f hf
  rcases DataType.struct_widensTo_iff.1 h with hstring | ⟨gs, hgs, hfields⟩
  · cases hstring
  · obtain rfl := DataType.struct.inj hgs
    have hmem : f ∈ Field.sort s.fields := (Field.sort_perm _).mem_iff.2 hf
    obtain ⟨u, hu, hfu⟩ := DataType.fieldsWiden_iff.1 hfields f hmem
    exact ⟨u, (Field.sort_perm _).mem_iff.1 hu, hfu⟩

namespace Inference

/-- An inference succeeds exactly when the ratio is accepted, the collection can be gone through and
each sampled document adds its fields; the schema then holds the merge of these. -/
theorem infer_eq_ok_iff {p : Plan} {documents : Value} {s : Schema} :
    infer p documents = .ok s ↔
      ∃ r ds gss, Sampling.acceptRatio p.ratio = .ok r ∧ documents.elements = .ok ds ∧
        (Sampling.sample r p.seed ds).mapM p.decoder.fields = .ok gss ∧
        s.fields = FieldTypes.merge [] gss.flatten := by
  have hschema (gss : List (List Field)) :
      Schema.ofFieldTypes (FieldTypes.merge [] gss.flatten) = .ok s ↔
        s.fields = FieldTypes.merge [] gss.flatten := by
    rw [Schema.ofFieldTypes_of_distinct (FieldTypes.Distinct.nil.merge _), Except.ok.injEq]
    constructor
    · rintro rfl
      rfl
    · intro h
      cases s
      cases h
      rfl
  simp only [infer, sample, aggregate_eq, bind_assoc, bind_eq_ok_iff, map_eq_ok_iff, pure_bind]
  constructor
  · rintro ⟨r, hr, ds, hds, fs, ⟨gss, hgss, rfl⟩, hs⟩
    exact ⟨r, ds, gss, hr, hds, hgss, (hschema gss).1 hs⟩
  · rintro ⟨r, ds, gss, hr, hds, hgss, hs⟩
    exact ⟨r, hr, ds, hds, _, ⟨gss, hgss, rfl⟩, (hschema gss).2 hs⟩

/-- Examining a larger part of a collection with the same seed only widens the schema. -/
theorem infer_widens_with_ratio (decoder : Decoder) (seed : Int) (documents : Value)
    (ratio₁ ratio₂ : Value) (r₁ r₂ : Decimal) (h₁ : ratio₁.number? = some r₁)
    (h₂ : ratio₂.number? = some r₂) (hzero : (Decimal.ofInt 0).le r₁ = true)
    (hle : r₁.le r₂ = true) (hone : r₂.le (Decimal.ofInt 1) = true) (s₂ : Schema)
    (hs₂ : infer ⟨ratio₂, seed, decoder⟩ documents = .ok s₂) :
    ∃ s₁, infer ⟨ratio₁, seed, decoder⟩ documents = .ok s₁ ∧
      s₁.asStruct.join s₂.asStruct = s₂.asStruct ∧
      ∀ f ∈ s₁.fields, ∃ u, (f.1, u) ∈ s₂.fields ∧ f.2.WidensTo u := by
  have haccept₁ := Sampling.acceptRatio_eq_ok h₁ hzero (Decimal.le_trans hle hone)
  have haccept₂ := Sampling.acceptRatio_eq_ok h₂ (Decimal.le_trans hzero hle) hone
  obtain ⟨r, ds, gss₂, hr, hds, hgss₂, hfields₂⟩ := infer_eq_ok_iff.1 hs₂
  obtain rfl := Except.ok.inj (haccept₂.symm.trans hr)
  obtain ⟨gss₁, hgss₁, hsub⟩ := mapM_sublist (Sampling.sample_sublist_sample hle seed ds) hgss₂
  have hwf₁ := wellFormed_of_mapM_fields hgss₁
  have hwf₂ := wellFormed_of_mapM_fields hgss₂
  have hstruct₂ : s₂.asStruct = FieldTypes.mergedStruct gss₂.flatten := by
    rw [Schema.asStruct, hfields₂]
    rfl
  have hwidens := FieldTypes.mergedStruct_widensTo_of_subset hwf₁ hwf₂ hsub.flatten.subset
  refine ⟨⟨_, FieldTypes.Distinct.nil.merge gss₁.flatten⟩, ?_, ?_, ?_⟩
  · exact infer_eq_ok_iff.2 ⟨r₁, ds, gss₁, haccept₁, hds, hgss₁, rfl⟩
  · rw [hstruct₂]
    exact DataType.join_eq_right_of_widensTo (FieldTypes.wellFormed_mergedStruct hwf₁)
      (FieldTypes.wellFormed_mergedStruct hwf₂) hwidens
  · apply Schema.fieldsWiden_of_asStruct
    rw [hstruct₂]
    exact hwidens

/-- A tenth of the documents, drawn with a seed, against all of them. -/
theorem infer_widens_with_ratio_tenth :
    let documents : Value := .list
      [.map .plain [(.text "a", .int .plain 1)],
        .map .plain [(.text "a", .float .double .zero), (.text "xs", .list [.null])]]
    ∃ s₁ s₂, infer ⟨.decimal (.finite false 1 (-1)), 7, .plain⟩ documents = .ok s₁ ∧
      infer ⟨.bool true, 7, .plain⟩ documents = .ok s₂ ∧
      s₂.fields = [("a", .double), ("xs", .array .null true)] ∧
      s₁.asStruct.join s₂.asStruct = s₂.asStruct := by
  intro documents
  have hfields : (infer ⟨.bool true, 7, .plain⟩ documents).map Schema.fields =
      .ok [("a", .double), ("xs", .array .null true)] := by decide +kernel
  obtain ⟨s₂, hs₂, hfields₂⟩ := map_eq_ok_iff.1 hfields
  obtain ⟨s₁, hs₁, hjoin, _⟩ := infer_widens_with_ratio .plain 7 documents
    (.decimal (.finite false 1 (-1))) (.bool true) _ _ rfl rfl (by decide +kernel)
    (by decide +kernel) (by decide +kernel) s₂ hs₂
  exact ⟨s₁, s₂, hs₁, hs₂, hfields₂, hjoin⟩

end Inference

end TabularSchema
