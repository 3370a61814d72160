import TabularSchema.Proofs.Rounding
import TabularSchema.Session

/-!
# Windows of clock readings

The window of a time is the floor of its seconds by the length of a window, so two times in one
window are less than a window apart. A clock shows a time as an integer, of which the window is
computed exactly, or as a double, of which the quotient is rounded in several steps. Below `2^62`
the errors do not add up to another window.
-/

namespace TabularSchema

namespace Binary64

theorem tdiv_num_den (q : ℚ) : q.num.tdiv q.den = if 0 ≤ q then ⌊q⌋ else ⌈q⌉ := by
  by_cases hq : 0 ≤ q
  · rw [if_pos hq, Rat.floor_def', Int.tdiv_eq_ediv_of_nonneg (Rat.num_nonneg.2 hq)]
  · have hneg : 0 ≤ -q.num := by
      have := Rat.num_neg.2 (not_le.1 hq)
      omega
    rw [if_neg hq, Rat.ceil_def', ← Int.tdiv_eq_ediv_of_nonneg hneg, Int.neg_tdiv, neg_neg]

/-- The remainder leaves a multiple of the divisor that is no further from zero, and its sign tells
that multiple from the floor. -/
theorem exists_remainder_eq (v : ℚ) {d : Nat} (hd : 0 < d) :
    ∃ n : Int, remainder v d = v - d * n ∧ |(d : ℚ) * n| ≤ |v| ∧
      ⌊v / d⌋ = if remainder v d < 0 then n - 1 else n := by
  have hd' : (0 : ℚ) < d := by exact_mod_cast hd
  have hv : (d : ℚ) * (v / d) = v := mul_div_cancel₀ v hd'.ne'
  refine ⟨(v / d).num.tdiv (v / d).den, rfl, ?_⟩
  have hremainder : remainder v d = d * (v / d - ((v / d).num.tdiv (v / d).den : Int)) := by
    rw [mul_sub, hv]
    rfl
  rw [hremainder, tdiv_num_den]
  by_cases hq : 0 ≤ v / d
  · have hfloor : (⌊v / d⌋ : ℚ) ≤ v / d := Int.floor_le _
    have hnonneg : (0 : ℚ) ≤ ⌊v / d⌋ := by exact_mod_cast Int.floor_nonneg.2 hq
    rw [if_pos hq]
    refine ⟨?_, ?_⟩
    · have hle : (d : ℚ) * ⌊v / d⌋ ≤ d * (v / d) := by gcongr
      rw [hv] at hle
      rw [abs_of_nonneg (by positivity)]
      exact hle.trans (le_abs_self v)
    · rw [if_neg (not_lt.2 (mul_nonneg hd'.le (sub_nonneg.2 hfloor)))]
  · have hceil : v / d ≤ (⌈v / d⌉ : ℚ) := Int.le_ceil _
    have hlt := Int.ceil_lt_add_one (v / d)
    have hnonpos : (⌈v / d⌉ : ℚ) ≤ 0 := by
      exact_mod_cast Int.ceil_le.2 (by simpa using (not_le.1 hq).le)
    rw [if_neg hq]
    refine ⟨?_, ?_⟩
    · rw [abs_of_nonpos (mul_nonpos_of_nonneg_of_nonpos hd'.le hnonpos)]
      have hle : (d : ℚ) * (v / d) ≤ d * ⌈v / d⌉ := by gcongr
      rw [hv] at hle
      exact (neg_le_neg hle).trans (neg_le_abs v)
    · rcases hceil.lt_or_eq with hless | heq
      · rw [if_pos (mul_neg_of_pos_of_neg hd' (sub_neg.2 hless)), Int.floor_eq_iff]
        push_cast
        constructor <;> linarith
      · have hzero : (d : ℚ) * (v / d - ⌈v / d⌉) = 0 := by rw [← heq, sub_self, mul_zero]
        rw [hzero, if_neg (lt_irrefl _), Int.floor_eq_iff]
        constructor <;> linarith

theorem snap_eq {c : ℚ} {m : Int} (h : |c - m| ≤ 1 / 3) :
    (if 1 / 2 < rounded (c - c.floor) then c.floor + 1 else c.floor) = m := by
  obtain ⟨hlow, hhigh⟩ := abs_le.1 h
  have hfloor : c.floor = ⌊c⌋ := rfl
  rw [hfloor]
  have hfract : |c - ⌊c⌋| < 2 ^ (0 : Int) := by
    rw [abs_of_nonneg (sub_nonneg.2 (Int.floor_le c)), zpow_zero]
    linarith [Int.lt_floor_add_one c]
  have herror : |rounded (c - ⌊c⌋) - (c - ⌊c⌋)| ≤ 1 / 8 :=
    (abs_rounded_sub_le (by norm_num) (by norm_num) hfract).trans (by norm_num)
  obtain ⟨hdown, hup⟩ := abs_le.1 herror
  rcases le_or_gt (m : ℚ) c with hle | hlt
  · have hm : ⌊c⌋ = m := Int.floor_eq_iff.2 ⟨hle, by linarith⟩
    rw [hm] at hdown hup ⊢
    rw [if_neg (by linarith)]
  · have hm : ⌊c⌋ = m - 1 := by
      rw [Int.floor_eq_iff]
      push_cast
      constructor <;> linarith
    rw [hm] at hdown hup ⊢
    push_cast at hdown hup ⊢
    rw [if_pos (by linarith), sub_add_cancel]

/-- Below `2^62` the errors of rounding do not reach the next window. -/
theorem floorQuotient_eq_floor {v : ℚ} (hv : |v| < 2 ^ 62) :
    floorQuotient v Session.windowSeconds = ⌊v / Session.windowSeconds⌋ := by
  have hseconds : ((Session.windowSeconds : Nat) : ℚ) = 3600 := by norm_num [Session.windowSeconds]
  obtain ⟨n, hr, hn, hfloor⟩ := exists_remainder_eq v (d := Session.windowSeconds) (by decide)
  rw [hseconds] at hn
  rw [hfloor, floorQuotient]
  obtain ⟨r, hr'⟩ : ∃ r, r = remainder v Session.windowSeconds := ⟨_, rfl⟩
  have hleft : v - r = 3600 * n := by
    rw [hr', hr, hseconds]
    ring
  simp only [hseconds, ← hr', hleft]
  obtain ⟨hnlow, hnhigh⟩ := abs_le.1 (hn.trans hv.le)
  -- The multiple of the window, its quotient and the quotient below it are rounded in turn.
  obtain ⟨a, ha⟩ : ∃ a, a = rounded (3600 * n) := ⟨_, rfl⟩
  obtain ⟨halow, hahigh⟩ : -(2 ^ 8) ≤ a - 3600 * n ∧ a - 3600 * n ≤ 2 ^ 8 := by
    have hsize : |3600 * (n : ℚ)| < 2 ^ (62 : Int) := by exact_mod_cast hn.trans_lt hv
    rw [← abs_le, ha]
    exact (abs_rounded_sub_le (by norm_num) (by norm_num) hsize).trans (by norm_num)
  obtain ⟨b, hb⟩ : ∃ b, b = rounded (a / 3600) := ⟨_, rfl⟩
  obtain ⟨hblow, hbhigh⟩ : -(1 / 8) ≤ b - a / 3600 ∧ b - a / 3600 ≤ 1 / 8 := by
    have hsize : |a / 3600| < 2 ^ (51 : Int) := by
      rw [abs_lt]
      norm_num at hnlow hnhigh halow hahigh ⊢
      constructor <;> linarith
    rw [← abs_le, hb]
    exact (abs_rounded_sub_le (by norm_num) (by norm_num) hsize).trans (by norm_num)
  obtain ⟨c, hc⟩ : ∃ c, c = rounded (b - 1) := ⟨_, rfl⟩
  obtain ⟨hclow, hchigh⟩ : -(1 / 8) ≤ c - (b - 1) ∧ c - (b - 1) ≤ 1 / 8 := by
    have hsize : |b - 1| < 2 ^ (51 : Int) := by
      rw [abs_lt]
      norm_num at hnlow hnhigh halow hahigh ⊢
      constructor <;> linarith
    rw [← abs_le, hc]
    exact (abs_rounded_sub_le (by norm_num) (by norm_num) hsize).trans (by norm_num)
  simp only [← ha, ← hb, ← hc]
  apply snap_eq
  rw [abs_le]
  norm_num at halow hahigh
  split
  · push_cast
    constructor <;> linarith
  · constructor <;> linarith

end Binary64

namespace Session

/-- The clock reading shows a number of seconds: as an integer, or as a double below `2^62`, which
is beyond all that 64 bits of nanoseconds can count. -/
inductive Shows : Value → ℚ → Prop
  | int (width : IntWidth) (n : Int) : Shows (.int width n) n
  | float (width : FloatWidth) {x : Binary64} {seconds : ℚ} :
      x.toRat? = some seconds → |seconds| < 2 ^ 62 → Shows (.float width x) seconds

theorem windowAt_eq_floor (seconds : ℚ) : windowAt seconds = ⌊seconds / 3600⌋ := by
  have hquotient :
      seconds / 3600 = (seconds.num : ℚ) / ((seconds.den * windowSeconds : Nat) : ℚ) := by
    rw [Nat.cast_mul, ← div_div, Rat.num_div_den]
    norm_num [windowSeconds]
  rw [hquotient, Rat.floor_intCast_div_natCast, windowAt,
    Int.fdiv_eq_ediv_of_nonneg _ (by positivity)]

theorem Shows.windowOf_eq {clock : Value} {seconds : ℚ} (h : Shows clock seconds) :
    windowOf clock = .ok (windowAt seconds) := by
  cases h with
  | int width n => rfl
  | float width hx hsize =>
    have hseconds : ((windowSeconds : Nat) : ℚ) = 3600 := by norm_num [windowSeconds]
    rw [windowOf, hx, windowAt_eq_floor, ← hseconds]
    exact congrArg Except.ok (Binary64.floorQuotient_eq_floor hsize)

/-- Two times in one window are less than a window apart. -/
theorem abs_sub_lt_of_windowAt_eq {s t : ℚ} (h : windowAt s = windowAt t) : |s - t| < 3600 := by
  rw [windowAt_eq_floor, windowAt_eq_floor] at h
  have hclose : |s / 3600 - t / 3600| < 1 := Int.abs_sub_lt_one_of_floor_eq_floor h
  rw [← sub_div, abs_div, abs_of_pos (by norm_num : (0 : ℚ) < 3600),
    div_lt_one (by norm_num)] at hclose
  exact hclose

end Session

end TabularSchema
