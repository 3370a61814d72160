import Mathlib.Algebra.Order.Field.Power
import Mathlib.Algebra.Order.Ring.Rat
import Mathlib.Data.Int.Cast.Lemmas
import Mathlib.Tactic.FieldSimp
import Mathlib.Tactic.Linarith
import Mathlib.Tactic.Positivity
import Mathlib.Tactic.Ring
import TabularSchema.Number.Binary64
import TabularSchema.Number.Decimal.Order

/-!
# Decimals and their exact values

The order of decimals is computed on coefficients and exponents, and so is the test whether a
decimal is whole. Both are what they are for the rational number that a finite decimal denotes:
`lt_iff`, `le_iff` and `same_iff` for the order, `toInt?_eq_some_iff` for whole numbers. The decimal
of a double denotes the number that the double does.
-/

namespace TabularSchema

namespace Decimal

def magnitude (coefficient : Nat) (exponent : Int) : ℚ := (coefficient : ℚ) * (10 : ℚ) ^ exponent

def withSign {α : Type} [Neg α] (negative : Bool) (x : α) : α := if negative then -x else x

theorem toRat?_finite (negative : Bool) (c : Nat) (e : Int) :
    (finite negative c e).toRat? = some (withSign negative (magnitude c e)) := rfl

theorem exists_finite_of_toRat? {d : Decimal} {q : ℚ} (h : d.toRat? = some q) :
    ∃ negative c e, d = .finite negative c e ∧ q = withSign negative (magnitude c e) := by
  cases d with
  | finite negative c e => exact ⟨negative, c, e, rfl, (Option.some.inj h).symm⟩
  | infinity negative => cases h
  | nan negative signaling payload => cases h

theorem magnitude_nonneg (c : Nat) (e : Int) : 0 ≤ magnitude c e := by
  unfold magnitude
  positivity

theorem magnitude_eq_zero_iff {c : Nat} {e : Int} : magnitude c e = 0 ↔ c = 0 := by
  have hpow : (10 : ℚ) ^ e ≠ 0 := zpow_ne_zero e (by norm_num)
  simp [magnitude, hpow]

theorem cast_alignedTo {base e : Int} (c : Nat) (h : base ≤ e) :
    (alignedTo base c e : ℚ) * (10 : ℚ) ^ base = magnitude c e := by
  have he : e = ((e - base).toNat : Int) + base := by omega
  have hpow : (10 : ℚ) ^ e = (10 : ℚ) ^ (e - base).toNat * (10 : ℚ) ^ base := by
    rw [← zpow_natCast, ← zpow_add₀ (by norm_num), ← he]
  unfold alignedTo magnitude
  rw [hpow, Nat.pow_eq]
  push_cast
  ring

theorem magnitudeLess_iff_lt (c : Nat) (e : Int) (d : Nat) (f : Int) :
    magnitudeLess c e d f = true ↔ magnitude c e < magnitude d f := by
  have hpos : (0 : ℚ) < (10 : ℚ) ^ (min e f) := zpow_pos (by norm_num) _
  rw [magnitudeLess_iff c d (Int.min_le_left e f) (Int.min_le_right e f),
    ← cast_alignedTo c (Int.min_le_left e f), ← cast_alignedTo d (Int.min_le_right e f),
    mul_lt_mul_iff_left₀ hpos, Nat.cast_lt]

section Order

variable {a b : Decimal} {p q : ℚ} (ha : a.toRat? = some p) (hb : b.toRat? = some q)
include ha hb

theorem lt_iff : a.lt b = true ↔ p < q := by
  obtain ⟨s, c, e, rfl, rfl⟩ := exists_finite_of_toRat? ha
  obtain ⟨t, d, f, rfl, rfl⟩ := exists_finite_of_toRat? hb
  have hc := magnitude_nonneg c e
  have hd := magnitude_nonneg d f
  cases s <;> cases t
  · exact magnitudeLess_iff_lt c e d f
  · simp only [lt, withSign, Bool.false_eq_true, if_false, if_true, false_iff, not_lt]
    linarith
  · -- Below zero on one side and above it on the other, only the two zeros are not ordered.
    have hzero : (c != 0 || d != 0) = true ↔ ¬ (c = 0 ∧ d = 0) := by
      rw [Bool.or_eq_true, bne_iff_ne, bne_iff_ne, not_and_or]
    simp only [lt, withSign, if_true, Bool.false_eq_true, if_false, hzero]
    rw [← magnitude_eq_zero_iff (e := e), ← magnitude_eq_zero_iff (e := f)]
    constructor
    · intro h
      rcases hc.lt_or_eq with hpos | hc0
      · linarith
      · rcases hd.lt_or_eq with hpos | hd0
        · linarith
        · exact absurd ⟨hc0.symm, hd0.symm⟩ h
    · rintro h ⟨hc0, hd0⟩
      rw [hc0, hd0] at h
      simp at h
  · simp only [lt, withSign, if_true, neg_lt_neg_iff]
    exact magnitudeLess_iff_lt d f c e

theorem le_iff : a.le b = true ↔ p ≤ q := by
  have hnan {d : Decimal} {r : ℚ} (h : d.toRat? = some r) : d.isNaN = false := by
    obtain ⟨s, c, e, rfl, _⟩ := exists_finite_of_toRat? h
    rfl
  rw [le, hnan ha, hnan hb, ← not_lt, ← lt_iff hb ha]
  simp

theorem same_iff : a.same b = true ↔ p = q := by
  rw [same, Bool.and_eq_true, le_iff ha hb, le_iff hb ha, le_antisymm_iff]

end Order

theorem toRat?_ofInt (n : Int) : (ofInt n).toRat? = some (n : ℚ) := by
  rw [ofInt, toRat?_finite, magnitude, zpow_zero, mul_one, Option.some.injEq]
  by_cases hn : n < 0
  · have habs : ((n.natAbs : Nat) : Int) = -n := by omega
    have hcast : ((n.natAbs : Nat) : ℚ) = -(n : ℚ) := by
      rw [← Int.cast_natCast, habs, Int.cast_neg]
    simp [withSign, hn, hcast]
  · have habs : ((n.natAbs : Nat) : Int) = n := by omega
    have hcast : ((n.natAbs : Nat) : ℚ) = (n : ℚ) := by
      rw [← Int.cast_natCast, habs]
    simp [withSign, hn, hcast]

@[simp]
theorem isNaN_ofInt (n : Int) : (ofInt n).isNaN = false := rfl

theorem exists_toRat?_of_between {d : Decimal} {m n : Int} (hm : (ofInt m).le d = true)
    (hn : d.le (ofInt n) = true) : ∃ q, d.toRat? = some q ∧ (m : ℚ) ≤ q ∧ q ≤ n := by
  cases d with
  | finite negative c e =>
    refine ⟨_, rfl, ?_, ?_⟩
    · exact (le_iff (toRat?_ofInt m) (toRat?_finite negative c e)).1 hm
    · exact (le_iff (toRat?_finite negative c e) (toRat?_ofInt n)).1 hn
  | infinity negative =>
    cases negative
    · simp [le, ofInt, lt] at hn
    · simp [le, ofInt, lt] at hm
  | nan negative signaling payload => simp [le, isNaN] at hm

theorem withSign_natCast (negative : Bool) (n : Nat) :
    (withSign negative (n : ℚ)) = ((withSign negative (n : Int) : Int) : ℚ) := by
  cases negative <;> simp [withSign]

theorem withSign_mul (negative : Bool) (x y : ℚ) :
    withSign negative (x * y) = withSign negative x * y := by
  cases negative <;> simp [withSign]

theorem digitCount_le_iff {c k : Nat} (hk : 0 < k) : digitCount c ≤ k ↔ c < 10 ^ k :=
  Nat.length_toDigits_le_iff (by decide) hk

theorem toInt?_of_nonneg (negative : Bool) {c : Nat} (hc : c ≠ 0) (k : Nat) :
    (finite negative c (k : Int)).toInt? = some (withSign negative ((c * 10 ^ k : Nat) : Int)) := by
  have hk : (0 : Int) ≤ (k : Int) := by omega
  simp only [toInt?, if_neg hc, if_pos hk]
  rfl

theorem toInt?_of_places (negative : Bool) {c k : Nat} (hc : c ≠ 0) (hk : 0 < k) :
    (finite negative c (-(k : Int))).toInt? =
      if c % 10 ^ k = 0 then some (withSign negative ((c / 10 ^ k : Nat) : Int)) else none := by
  have hneg : ¬ (0 : Int) ≤ -(k : Int) := by omega
  simp only [toInt?, if_neg hc, if_neg hneg, neg_neg, Nat.cast_le]
  by_cases hdigits : digitCount c ≤ k
  · have hmod : c % 10 ^ k = c := Nat.mod_eq_of_lt ((digitCount_le_iff hk).1 hdigits)
    rw [if_pos hdigits, if_neg (by rw [hmod]; exact hc)]
  · rw [if_neg hdigits]
    rfl

theorem toInt?_places_eq_some_iff (negative : Bool) {c k : Nat} (hc : c ≠ 0) (hk : 0 < k)
    {n : Int} :
    (finite negative c (-(k : Int))).toInt? = some n ↔
      withSign negative (c : Int) = n * 10 ^ k := by
  rw [toInt?_of_places negative hc hk]
  by_cases hmod : c % 10 ^ k = 0
  · have hdiv : ((c / 10 ^ k : Nat) : Int) * 10 ^ k = c := by
      exact_mod_cast Nat.div_mul_cancel (Nat.dvd_of_mod_eq_zero hmod)
    have hsigned : withSign negative (c : Int) =
        withSign negative ((c / 10 ^ k : Nat) : Int) * 10 ^ k := by
      cases negative
      · exact hdiv.symm
      · simp only [withSign, if_true, neg_mul, hdiv]
    rw [if_pos hmod, Option.some.injEq, hsigned]
    exact (mul_left_inj' (pow_ne_zero k (by norm_num))).symm
  · rw [if_neg hmod]
    refine iff_of_false (by simp) fun hn => hmod (Nat.mod_eq_zero_of_dvd ?_)
    have hdvd : ((10 ^ k : Nat) : Int) ∣ withSign negative (c : Int) :=
      ⟨n, by rw [hn]; push_cast; ring⟩
    cases negative
    · exact Int.natCast_dvd_natCast.1 hdvd
    · exact Int.natCast_dvd_natCast.1 (Int.dvd_neg.1 hdvd)

theorem toInt?_eq_some_iff {d : Decimal} {n : Int} :
    d.toInt? = some n ↔ d.toRat? = some (n : ℚ) := by
  cases d with
  | infinity negative => simp [toInt?, toRat?]
  | nan negative signaling payload => simp [toInt?, toRat?]
  | finite negative c e =>
    rw [toRat?_finite, Option.some.injEq]
    by_cases hc : c = 0
    · subst hc
      have hzero : withSign negative (magnitude 0 e) = ((0 : Int) : ℚ) := by
        cases negative <;> simp [withSign, magnitude]
      rw [hzero, Int.cast_inj]
      simp [toInt?]
    · by_cases he : 0 ≤ e
      · obtain ⟨k, rfl⟩ := Int.eq_ofNat_of_zero_le he
        have hrat : withSign negative (magnitude c (k : Int)) =
            ((withSign negative ((c * 10 ^ k : Nat) : Int) : Int) : ℚ) := by
          rw [← withSign_natCast, magnitude, zpow_natCast]
          push_cast
          rfl
        rw [toInt?_of_nonneg negative hc k, hrat, Option.some.injEq, Int.cast_inj]
      · obtain ⟨k, rfl⟩ : ∃ k : Nat, e = -(k : Int) := ⟨(-e).toNat, by omega⟩
        have hk : 0 < k := by omega
        have hten : (10 : ℚ) ^ k ≠ 0 := pow_ne_zero k (by norm_num)
        rw [toInt?_places_eq_some_iff negative hc hk, magnitude, zpow_neg, zpow_natCast,
          withSign_mul, ← div_eq_mul_inv, div_eq_iff hten, withSign_natCast]
        exact_mod_cast Iff.rfl

theorem toInt?_eq_none_iff {d : Decimal} :
    d.toInt? = none ↔ ∀ n : Int, d.toRat? ≠ some (n : ℚ) := by
  simp only [Option.eq_none_iff_forall_ne_some, ne_eq, toInt?_eq_some_iff]

end Decimal

namespace Binary64

open Decimal

theorem oddPart_spec {fuel n k n' k' : Nat} (h : oddPart fuel n k = (n', k')) :
    n * 2 ^ k = n' * 2 ^ k' ∧ k' ≤ k + fuel := by
  induction fuel generalizing n k with
  | zero =>
    obtain ⟨rfl, rfl⟩ := Prod.mk.inj h
    exact ⟨rfl, Nat.le_refl _⟩
  | succ fuel ih =>
    rw [oddPart] at h
    split at h
    · next heven =>
      obtain ⟨hvalue, hle⟩ := ih h
      have hhalf : n / 2 * 2 = n := by omega
      have hstep : n * 2 ^ k = n / 2 * 2 ^ (k + 1) := by
        rw [pow_succ, mul_comm (2 ^ k) 2, ← mul_assoc, hhalf]
      exact ⟨hstep.trans hvalue, by omega⟩
    · obtain ⟨rfl, rfl⟩ := Prod.mk.inj h
      exact ⟨rfl, by omega⟩

theorem five_pow_mul_ten_zpow (n : Nat) :
    ((5 ^ n : Nat) : ℚ) * (10 : ℚ) ^ (-(n : Int)) = (2 : ℚ) ^ (-(n : Int)) := by
  have hten : (10 : ℚ) = 5 * 2 := by norm_num
  have hfive : (5 : ℚ) ^ n ≠ 0 := pow_ne_zero n (by norm_num)
  rw [zpow_neg, zpow_neg, zpow_natCast, zpow_natCast, hten, mul_pow, mul_inv, Nat.cast_pow,
    ← mul_assoc, Nat.cast_ofNat, mul_inv_cancel₀ hfive, one_mul]

theorem isNaN_toDecimal {x : Binary64} (hx : x ≠ .nan) : x.toDecimal.isNaN = false := by
  cases x with
  | nan => exact absurd rfl hx
  | infinity negative => rfl
  | finite negative m e =>
    rw [toDecimal]
    split
    · rfl
    · split <;> rfl

theorem toRat?_toDecimal (x : Binary64) : x.toDecimal.toRat? = x.toRat? := by
  cases x with
  | nan => rfl
  | infinity negative => rfl
  | finite negative m e =>
    have hvalue : (finite negative m e).toRat? = some (withSign negative ((m : ℚ) * 2 ^ e)) := rfl
    rw [hvalue, toDecimal]
    by_cases hm : m = 0
    · rw [if_pos hm, toRat?_finite, hm, magnitude]
      simp
    · rw [if_neg hm]
      by_cases he : 0 ≤ e
      · obtain ⟨k, rfl⟩ := Int.eq_ofNat_of_zero_le he
        rw [if_pos he, toRat?_finite, magnitude, zpow_zero, mul_one]
        simp [Nat.pow_eq]
      · obtain ⟨j, rfl⟩ : ∃ j : Nat, e = -(j : Int) := ⟨(-e).toNat, by omega⟩
        have htoNat : (- -(j : Int)).toNat = j := by omega
        obtain ⟨n, k, hodd⟩ : ∃ n k, oddPart j m 0 = (n, k) := ⟨_, _, rfl⟩
        obtain ⟨hmk, hk⟩ := oddPart_spec hodd
        rw [if_neg he, htoNat, hodd, toRat?_finite, magnitude]
        have hplaces : (-(j : Int)) = -((j - k : Nat) : Int) + (-(k : Int)) := by omega
        have hcast : (m : ℚ) = n * 2 ^ k := by exact_mod_cast (by simpa using hmk : m = n * 2 ^ k)
        have htwo : (2 : ℚ) ^ k ≠ 0 := pow_ne_zero k (by norm_num)
        rw [Nat.pow_eq, Nat.cast_mul, mul_assoc, five_pow_mul_ten_zpow, hplaces,
          zpow_add₀ (by norm_num), hcast, zpow_neg _ (k : Int), zpow_natCast _ k]
        congr 2
        field_simp

end Binary64

end TabularSchema
