import Mathlib.Data.Rat.Floor
import TabularSchema.Number.Binary64.Quotient
import TabularSchema.Proofs.DecimalValue

/-!
# How far rounding to a double goes

A double is built from a ratio by scaling it to a quotient of 53 bits and rounding the quotient. So
the double nearest to a number below `2^k` is off by no more than `2^(k - 54)`, as long as `k` keeps
away from both ends of the range.
-/

namespace TabularSchema.Binary64

open Decimal

theorem scaleBy_spec (e : Int) (num : Nat) {den : Nat} (h : 0 < den) :
    0 < (scaleBy e num den).2 ∧
      ((scaleBy e num den).1 : ℚ) / (scaleBy e num den).2 = (num : ℚ) / den / 2 ^ e := by
  rw [scaleBy]
  split
  · next he =>
    obtain ⟨k, rfl⟩ := Int.eq_ofNat_of_zero_le he
    have htwo : 0 < 2 ^ k := by positivity
    refine ⟨Nat.mul_pos h htwo, ?_⟩
    rw [div_div]
    push_cast [Int.toNat_natCast, Nat.pow_eq, zpow_natCast]
    rfl
  · next he =>
    obtain ⟨k, rfl⟩ : ∃ k : Nat, e = -(k : Int) := ⟨(-e).toNat, by omega⟩
    refine ⟨h, ?_⟩
    rw [neg_neg, Int.toNat_natCast, zpow_neg, zpow_natCast, div_inv_eq_mul]
    push_cast [Nat.pow_eq]
    ring

theorem two_zpow_floorLog2_le {num den : Nat} (hnum : 0 < num) (hden : 0 < den) :
    (2 : ℚ) ^ floorLog2 num den ≤ (num : ℚ) / den := by
  have hden' : (0 : ℚ) < den := by exact_mod_cast hden
  obtain ⟨hpos, hscale⟩ := scaleBy_spec ((num.log2 : Int) - den.log2) num hden
  have hpos' : (0 : ℚ) < (scaleBy ((num.log2 : Int) - den.log2) num den).2 := by exact_mod_cast hpos
  have htwo : (0 : ℚ) < 2 ^ ((num.log2 : Int) - den.log2) := by positivity
  rw [floorLog2]
  dsimp only
  split
  · next hle =>
    have hone : (1 : ℚ) ≤ (num : ℚ) / den / 2 ^ ((num.log2 : Int) - den.log2) := by
      rw [← hscale, one_le_div hpos']
      exact_mod_cast hle
    rwa [le_div_iff₀ htwo, one_mul] at hone
  · have hlow : (2 : ℚ) ^ num.log2 ≤ num := by exact_mod_cast Nat.log2_self_le hnum.ne'
    have hhigh : (den : ℚ) ≤ 2 ^ (den.log2 + 1) := by exact_mod_cast Nat.lt_log2_self.le
    have hsplit : (2 : ℚ) ^ ((num.log2 : Int) - den.log2 - 1) =
        2 ^ num.log2 / 2 ^ (den.log2 + 1) := by
      rw [← zpow_natCast, ← zpow_natCast, ← zpow_sub₀ two_ne_zero]
      congr 1
      push_cast
      ring
    rw [hsplit]
    gcongr

theorem abs_roundQuotient_sub_le (num : Nat) {den : Nat} (h : 0 < den) :
    |(roundQuotient num den : ℚ) - (num : ℚ) / den| ≤ 1 / 2 := by
  have hden : (0 : ℚ) < den := by exact_mod_cast h
  have hdiv : ((num / den : Nat) : ℚ) + ((num % den : Nat) : ℚ) / den = (num : ℚ) / den := by
    rw [eq_div_iff hden.ne', add_mul, div_mul_cancel₀ _ hden.ne']
    exact_mod_cast Nat.div_add_mod' num den
  have hmod : ((num % den : Nat) : ℚ) / den < 1 := by
    rw [div_lt_one hden]
    exact_mod_cast Nat.mod_lt num h
  have hnonneg : 0 ≤ ((num % den : Nat) : ℚ) / den := by positivity
  rw [roundQuotient]
  split
  · next hup =>
    have hhalf : (1 : ℚ) / 2 ≤ ((num % den : Nat) : ℚ) / den := by
      rw [le_div_iff₀ hden, one_div, inv_mul_le_iff₀ two_pos]
      have : den ≤ 2 * (num % den) := by omega
      exact_mod_cast this
    rw [← hdiv, abs_le]
    push_cast
    constructor <;> linarith
  · next hdown =>
    have hhalf : ((num % den : Nat) : ℚ) / den ≤ 1 / 2 := by
      rw [div_le_iff₀ hden, one_div, le_inv_mul_iff₀ two_pos]
      have : 2 * (num % den) ≤ den := by omega
      exact_mod_cast this
    rw [← hdiv, abs_le]
    constructor <;> linarith

theorem exists_toRat?_ofRatio (negative : Bool) {num den : Nat} (hnum : 0 < num) (hden : 0 < den)
    {k : Int} (hlow : -1021 ≤ k) (hhigh : k ≤ 1023) (h : (num : ℚ) / den < 2 ^ k) :
    ∃ q : ℚ, (ofRatio negative num den).toRat? = some (withSign negative q) ∧
      |q - (num : ℚ) / den| ≤ 2 ^ (k - 54) := by
  have hlog : floorLog2 num den < k := by
    have hlt := (two_zpow_floorLog2_le hnum hden).trans_lt h
    exact (zpow_lt_zpow_iff_right₀ one_lt_two).1 hlt
  obtain ⟨e, he⟩ : ∃ e, e = max (floorLog2 num den - 52) minExponent := ⟨_, rfl⟩
  have hek : e ≤ k - 53 := by
    rw [he, minExponent]
    omega
  obtain ⟨hpos, hscale⟩ := scaleBy_spec e num hden
  obtain ⟨q, hq⟩ : ∃ q, q = roundQuotient (scaleBy e num den).1 (scaleBy e num den).2 := ⟨_, rfl⟩
  have htwo : (0 : ℚ) < 2 ^ e := by positivity
  refine ⟨(q : ℚ) * 2 ^ e, ?_, ?_⟩
  · rw [ofRatio, if_neg hnum.ne', ← he]
    dsimp only
    rw [← hq]
    -- A quotient that was rounded up to `2^53` is written with one bit less and the next exponent.
    by_cases hcarry : q = Nat.pow 2 precision
    · have hvalue : ((Nat.pow 2 52 : Nat) : ℚ) * 2 ^ (e + 1) = (q : ℚ) * 2 ^ e := by
        rw [hcarry, precision, zpow_add_one₀ two_ne_zero]
        norm_num
        ring
      have hmax : ¬ maxExponent < e + 1 := by
        rw [maxExponent]
        omega
      rw [if_pos hcarry]
      dsimp only
      rw [if_neg hmax, ← hvalue]
      rfl
    · have hmax : ¬ maxExponent < e := by
        rw [maxExponent]
        omega
      rw [if_neg hcarry]
      dsimp only
      rw [if_neg hmax]
      rfl
  · have hround := abs_roundQuotient_sub_le (scaleBy e num den).1 hpos
    rw [← hq, hscale] at hround
    have hfactor : (q : ℚ) * 2 ^ e - (num : ℚ) / den =
        ((q : ℚ) - (num : ℚ) / den / 2 ^ e) * 2 ^ e := by
      rw [sub_mul, div_mul_cancel₀ _ htwo.ne']
    have hhalf : (1 : ℚ) / 2 * 2 ^ e = 2 ^ (e - 1) := by
      rw [zpow_sub_one₀ two_ne_zero, one_div, mul_comm]
    calc |(q : ℚ) * 2 ^ e - (num : ℚ) / den|
        = |(q : ℚ) - (num : ℚ) / den / 2 ^ e| * 2 ^ e := by
          rw [hfactor, abs_mul, abs_of_pos htwo]
      _ ≤ 1 / 2 * 2 ^ e := by gcongr
      _ = 2 ^ (e - 1) := hhalf
      _ ≤ 2 ^ (k - 54) := zpow_le_zpow_right₀ one_le_two (by omega)

/-- The double nearest to a number below `2^k` is off by `2^(k - 54)` at most. -/
theorem abs_rounded_sub_le {x : ℚ} {k : Int} (hlow : -1021 ≤ k) (hhigh : k ≤ 1023)
    (h : |x| < 2 ^ k) : |rounded x - x| ≤ 2 ^ (k - 54) := by
  by_cases hx : x = 0
  · subst hx
    have hzero : rounded 0 = 0 := by decide +kernel
    rw [hzero, sub_self, abs_zero]
    positivity
  · have habs : ((x.num.natAbs : Nat) : ℚ) / x.den = |x| := by
      have hden : (0 : ℚ) < x.den := by exact_mod_cast x.den_pos
      conv_rhs => rw [← x.num_div_den]
      rw [abs_div, abs_of_pos hden, Nat.cast_natAbs, Int.cast_abs]
    have hnum : 0 < x.num.natAbs := Int.natAbs_pos.2 (Rat.num_ne_zero.2 hx)
    rw [← habs] at h
    obtain ⟨q, hq, herror⟩ := exists_toRat?_ofRatio (decide (x < 0)) hnum x.den_pos hlow hhigh h
    rw [habs] at herror
    rw [rounded, ofRat, hq, Option.getD_some]
    by_cases hneg : x < 0
    · rw [abs_of_neg hneg] at herror
      simp only [hneg, decide_true, withSign, if_true]
      rwa [← abs_neg, neg_sub, sub_neg_eq_add, add_comm, ← sub_neg_eq_add]
    · rw [abs_of_nonneg (not_lt.1 hneg)] at herror
      simpa only [hneg, decide_false, withSign, Bool.false_eq_true, if_false] using herror

end TabularSchema.Binary64
