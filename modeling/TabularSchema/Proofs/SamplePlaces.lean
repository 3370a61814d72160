import TabularSchema.Proofs.SampleGrowth

/-!
# A sample is taken by places

The generator of a seed has a draw for each place, a whole number of parts of `2^53` below one.
Whether a document is kept depends on its place, the seed and the ratio alone: a sample is the part
of a list that stands at selected places, and a larger ratio selects the same places and more. So
documents can be appended or replaced one by one without any effect on which places are kept.
-/

namespace TabularSchema

namespace Generator

def after (g : Generator) : Nat → Generator
  | 0 => g
  | n + 1 => (g.after n).draw.2

/-- The draw for a place. -/
def drawAt (g : Generator) (i : Nat) : Decimal := (g.after i).draw.1

theorem toNat_shiftRight_lt (w s : UInt32) : (w >>> s).toNat < 2 ^ (32 - s.toNat % 32) := by
  have hplaces : s.toNat % 32 + (32 - s.toNat % 32) = 32 := by omega
  rw [UInt32.toNat_shiftRight, Nat.shiftRight_eq_div_pow]
  apply Nat.div_lt_of_lt_mul
  rw [← Nat.pow_add, hplaces]
  exact w.toNat_lt

theorem nextBits_lt (g : Generator) : g.nextBits.1 < 2 ^ 53 := by
  have hhigh : (g.nextWord.1 >>> 5).toNat < 2 ^ 27 := toNat_shiftRight_lt _ 5
  have hlow : (g.nextWord.2.nextWord.1 >>> 6).toNat < 2 ^ 26 := toNat_shiftRight_lt _ 6
  have hbits : g.nextBits.1 =
      (g.nextWord.1 >>> 5).toNat * 2 ^ 26 + (g.nextWord.2.nextWord.1 >>> 6).toNat := rfl
  omega

theorem exists_toRat?_draw (g : Generator) :
    ∃ n : Nat, n < 2 ^ 53 ∧ g.draw.1.toRat? = some ((n : ℚ) / 2 ^ 53) := by
  refine ⟨g.nextBits.1, g.nextBits_lt, ?_⟩
  have hdraw : g.draw.1 = .finite false (g.nextBits.1 * 5 ^ 53) (-(53 : Nat)) := rfl
  rw [hdraw, Decimal.toRat?_finite, Decimal.magnitude, Nat.cast_mul, mul_assoc,
    Binary64.five_pow_mul_ten_zpow, zpow_neg, zpow_natCast, ← div_eq_mul_inv]
  rfl

end Generator

namespace Sampling

variable {α : Type}

/-- The entries of a list that stand at selected places. -/
def atPlaces (selected : Nat → Bool) (ds : List α) : List α :=
  (ds.zipIdx.filter fun d => selected d.2).map Prod.fst

theorem atPlaces_map {β : Type} (selected : Nat → Bool) (f : α → β) (ds : List α) :
    atPlaces selected (ds.map f) = (atPlaces selected ds).map f := by
  rw [atPlaces, atPlaces, List.zipIdx_map, List.filter_map, List.map_map, List.map_map]
  rfl

theorem atPlaces_append (selected : Nat → Bool) (ds es : List α) :
    atPlaces selected (ds ++ es) =
      atPlaces selected ds ++ atPlaces (fun i => selected (ds.length + i)) es := by
  have hshift : (es.zipIdx ds.length).filter (fun d => selected d.2) =
      (es.zipIdx.filter fun d => selected (ds.length + d.2)).map
        fun d => (d.1, ds.length + d.2) := by
    rw [List.zipIdx_eq_map_add, List.filter_map]
    rfl
  rw [atPlaces, List.zipIdx_append, Nat.zero_add, List.filter_append, List.map_append, hshift,
    List.map_map]
  rfl

theorem atPlaces_all {selected : Nat → Bool} (h : ∀ i, selected i = true) (ds : List α) :
    atPlaces selected ds = ds := by
  rw [atPlaces, List.filter_eq_self.2 fun d _ => h d.2, List.zipIdx_map_fst]

theorem atPlaces_none {selected : Nat → Bool} (h : ∀ i, selected i = false) (ds : List α) :
    atPlaces selected ds = [] := by
  rw [atPlaces, List.filter_eq_nil_iff.2 fun d _ => by simp [h], List.map_nil]

def selects (ratio : Decimal) (seed : Int) (i : Nat) : Bool :=
  isFullScan ratio || ((Generator.ofSeed seed).drawAt i).lt ratio

theorem drawEach_after (g : Generator) (ratio : Decimal) (n : Nat) (ds : List α) :
    drawEach (g.after n) ratio ds =
      (ds.zipIdx n).map fun d => (d.1, (g.drawAt d.2).lt ratio) := by
  induction ds generalizing n with
  | nil => rfl
  | cons d ds ih => exact congrArg (List.cons _) (ih (n + 1))

theorem mark_eq (ratio : Decimal) (seed : Int) (ds : List α) :
    mark ratio seed ds = ds.zipIdx.map fun d => (d.1, selects ratio seed d.2) := by
  unfold mark selects
  cases isFullScan ratio with
  | true =>
    conv_lhs => rw [← List.zipIdx_map_fst 0 ds]
    exact List.map_map
  | false => exact drawEach_after (Generator.ofSeed seed) ratio 0 ds

theorem sample_eq_atPlaces (ratio : Decimal) (seed : Int) (ds : List α) :
    sample ratio seed ds = atPlaces (selects ratio seed) ds := by
  rw [sample, mark_eq, kept, List.filter_map, List.map_map]
  rfl

theorem selects_of_le {r₁ r₂ : Decimal} (hle : r₁.le r₂ = true) {seed : Int} {i : Nat}
    (h : selects r₁ seed i = true) : selects r₂ seed i = true := by
  rcases Bool.or_eq_true_iff.1 h with hfull | hdraw
  · exact Bool.or_eq_true_iff.2 (Or.inl (isFullScan_of_le hle hfull))
  · exact Bool.or_eq_true_iff.2 (Or.inr (Decimal.lt_of_lt_of_le hdraw hle))

theorem selects_of_isFullScan {ratio : Decimal} (h : isFullScan ratio = true) (seed : Int)
    (i : Nat) : selects ratio seed i = true := Bool.or_eq_true_iff.2 (Or.inl h)

theorem exists_toRat?_fullScanThreshold :
    ∃ t : ℚ, fullScanThreshold.toRat? = some t ∧ 0 ≤ t ∧ t < 99 / 100 := by
  have hzero : (Decimal.ofInt 0).le fullScanThreshold = true := by decide +kernel
  have hone : fullScanThreshold.le (Decimal.ofInt 1) = true := by decide +kernel
  have hlt : fullScanThreshold.lt (.finite false 99 (-2)) = true := by decide +kernel
  have hvalue : (Decimal.finite false 99 (-2)).toRat? = some (99 / 100) := by
    rw [Decimal.toRat?_finite, Decimal.magnitude, Decimal.withSign]
    norm_num
  obtain ⟨t, ht, hnonneg, -⟩ := Decimal.exists_toRat?_of_between hzero hone
  exact ⟨t, ht, by exact_mod_cast hnonneg, (Decimal.lt_iff ht hvalue).1 hlt⟩

theorem isFullScan_of_lt {ratio : Decimal} {q : ℚ} (hq : ratio.toRat? = some q) (h : 99 / 100 < q) :
    isFullScan ratio = true := by
  obtain ⟨t, ht, -, hlt⟩ := exists_toRat?_fullScanThreshold
  exact (Decimal.lt_iff ht hq).2 (hlt.trans h)

theorem selects_of_zero {ratio : Decimal} (hzero : ratio.toRat? = some 0) (seed : Int) (i : Nat) :
    selects ratio seed i = false := by
  obtain ⟨t, ht, hnonneg, -⟩ := exists_toRat?_fullScanThreshold
  obtain ⟨n, -, hn⟩ := ((Generator.ofSeed seed).after i).exists_toRat?_draw
  have hfull : ¬ isFullScan ratio = true := by
    intro h
    have hneg := (Decimal.lt_iff ht hzero).1 h
    linarith
  have hdraw : ¬ ((Generator.ofSeed seed).drawAt i).lt ratio = true := by
    intro h
    have hneg := (Decimal.lt_iff hn hzero).1 h
    have hpos : (0 : ℚ) ≤ (n : ℚ) / 2 ^ 53 := by positivity
    linarith
  rw [selects, Bool.eq_false_iff.2 hfull, Bool.eq_false_iff.2 hdraw]
  rfl

end Sampling

namespace Inference

open Sampling

theorem sample_list_eq_atPlaces {ratio : Value} {r : Decimal} (hr : acceptRatio ratio = .ok r)
    (seed : Int) (ds : List Value) :
    sample (.list ds) ratio seed = .ok (atPlaces (selects r seed) ds) := by
  rw [sample_list hr, sample_eq_atPlaces]

/-- Sampling keeps what stands at the places that the seed and the ratio select. A larger ratio
selects no fewer places, documents behind the others make no difference to these, and neither does
what the documents are. At ratio zero nothing is kept, and above 0.99 everything is. -/
theorem sample_by_place (seed : Int) (ratio₁ ratio₂ : Value) (r₁ r₂ : Decimal)
    (h₁ : ratio₁.number? = some r₁) (h₂ : ratio₂.number? = some r₂)
    (hzero : (Decimal.ofInt 0).le r₁ = true) (hle : r₁.le r₂ = true)
    (hone : r₂.le (Decimal.ofInt 1) = true) (xs ys : List Value) (f : Value → Value) :
    (∀ i, ∃ n : Nat, n < 2 ^ 53 ∧
      ((Generator.ofSeed seed).drawAt i).toRat? = some ((n : ℚ) / 2 ^ 53)) ∧
    sample (.list xs) ratio₁ seed = .ok (atPlaces (selects r₁ seed) xs) ∧
    sample (.list xs) ratio₂ seed = .ok (atPlaces (selects r₂ seed) xs) ∧
    (∀ i, selects r₁ seed i = true → selects r₂ seed i = true) ∧
    (atPlaces (selects r₁ seed) xs).Sublist (atPlaces (selects r₂ seed) xs) ∧
    sample (.list (xs ++ ys)) ratio₁ seed =
      .ok (atPlaces (selects r₁ seed) xs ++
        atPlaces (fun i => selects r₁ seed (xs.length + i)) ys) ∧
    sample (.list (xs.map f)) ratio₁ seed = .ok ((atPlaces (selects r₁ seed) xs).map f) ∧
    (r₁.toRat? = some 0 → sample (.list xs) ratio₁ seed = .ok []) ∧
    ((isFullScan r₁ = true ∨ ∃ q, r₁.toRat? = some q ∧ 99 / 100 < q) →
      sample (.list xs) ratio₁ seed = .ok xs) := by
  have haccept₁ := acceptRatio_eq_ok h₁ hzero (Decimal.le_trans hle hone)
  have haccept₂ := acceptRatio_eq_ok h₂ (Decimal.le_trans hzero hle) hone
  have hsub := sample_sublist_sample hle seed xs
  rw [sample_eq_atPlaces, sample_eq_atPlaces] at hsub
  refine ⟨fun i => ((Generator.ofSeed seed).after i).exists_toRat?_draw,
    sample_list_eq_atPlaces haccept₁ seed xs, sample_list_eq_atPlaces haccept₂ seed xs,
    fun _ => selects_of_le hle, hsub, ?_, ?_, fun hr => ?_, fun hr => ?_⟩
  · rw [sample_list_eq_atPlaces haccept₁, atPlaces_append]
  · rw [sample_list_eq_atPlaces haccept₁, atPlaces_map]
  · rw [sample_list_eq_atPlaces haccept₁, atPlaces_none (selects_of_zero hr seed)]
  · have hfull : isFullScan r₁ = true := by
      rcases hr with hfull | ⟨q, hq, hlt⟩
      · exact hfull
      · exact isFullScan_of_lt hq hlt
    rw [sample_list_eq_atPlaces haccept₁, atPlaces_all (selects_of_isFullScan hfull seed)]

/-- Half of some documents against all of them, and half of them with more documents behind. -/
theorem sample_by_place_half :
    let half : Value := .decimal (.finite false 5 (-1))
    let documents := [Value.ofInt 1, .text "a", .null]
    ∃ kept more, sample (.list documents) half 7 = .ok kept ∧ kept.Sublist documents ∧
      sample (.list (documents ++ documents)) half 7 = .ok (kept ++ more) ∧
      sample (.list (documents.map fun _ => .null)) half 7 = .ok (kept.map fun _ => .null) ∧
      sample (.list documents) (.bool true) 7 = .ok documents ∧
      sample (.list documents) (.float .double .zero) 7 = .ok [] := by
  intro half documents
  obtain ⟨-, hkept, hall, -, hsub, happend, hmap, -, -⟩ :=
    sample_by_place 7 half (.bool true) _ _ rfl rfl (by decide +kernel) (by decide +kernel)
      (by decide +kernel) documents documents (fun _ => .null)
  obtain ⟨-, -, -, -, -, -, -, -, hfull⟩ :=
    sample_by_place 7 (.bool true) (.bool true) _ _ rfl rfl (by decide +kernel) (by decide +kernel)
      (by decide +kernel) documents [] id
  obtain ⟨-, -, -, -, -, -, -, hnothing, -⟩ :=
    sample_by_place 7 (.float .double .zero) (.bool true) _ _ rfl rfl (by decide +kernel)
      (by decide +kernel) (by decide +kernel) documents [] id
  have hone := hfull (Or.inl (by decide +kernel))
  rw [Except.ok.inj (hall.symm.trans hone)] at hsub
  exact ⟨_, _, hkept, hsub, happend, hmap, hone, hnothing (by decide +kernel)⟩

end Inference

end TabularSchema
