import TabularSchema.Number.Decimal

/-!
# Order of decimals

Decimals are ordered by exact value, with the infinities at the ends and NaN outside the order.
Numbers with exponents far apart are told apart by the places of their leading digits where these
differ, and all others are brought to a common exponent, so exponents of any size are compared
quickly. `magnitudeLess_iff` says that this is the order of the values.
-/

namespace TabularSchema

namespace Decimal

/-- The coefficient of `coefficient * 10^exponent` at a lower exponent. -/
def alignedTo (base : Int) (coefficient : Nat) (exponent : Int) : Nat :=
  coefficient * Nat.pow 10 (exponent - base).toNat

/-- The place right before the leading digit of a positive number. -/
def place (coefficient : Nat) (exponent : Int) : Int := exponent + (digitCount coefficient : Int)

def farApart : Nat := 400

def lessAligned (c : Nat) (e : Int) (d : Nat) (f : Int) : Bool :=
  decide (alignedTo (min e f) c e < alignedTo (min e f) d f)

def magnitudeLess (c : Nat) (e : Int) (d : Nat) (f : Int) : Bool :=
  if (e - f).natAbs < farApart then lessAligned c e d f
  else if d = 0 then false
  else if c = 0 then true
  else if place c e = place d f then lessAligned c e d f
  else decide (place c e < place d f)

theorem alignedTo_lower {base mid : Int} (c : Nat) {e : Int} (h : base ≤ mid) (he : mid ≤ e) :
    alignedTo base c e = alignedTo mid c e * Nat.pow 10 (mid - base).toNat := by
  have hs : (e - base).toNat = (e - mid).toNat + (mid - base).toNat := by omega
  rw [alignedTo, alignedTo, hs, Nat.mul_assoc]
  exact congrArg (c * ·) (Nat.pow_add ..)

theorem alignedTo_lt_of_place_lt {base e f : Int} {c d : Nat} (he : base ≤ e) (hf : base ≤ f)
    (hd : 0 < d) (h : place c e < place d f) : alignedTo base c e < alignedTo base d f := by
  have hpos : 0 < digitCount d := Nat.length_toDigits_pos
  have hle : digitCount c + (e - base).toNat ≤ digitCount d - 1 + (f - base).toNat := by
    unfold place at h
    omega
  calc alignedTo base c e
      < 10 ^ digitCount c * 10 ^ (e - base).toNat :=
        Nat.mul_lt_mul_of_pos_right (lt_pow_digitCount c) (Nat.pow_pos (by decide))
    _ = 10 ^ (digitCount c + (e - base).toNat) := (Nat.pow_add ..).symm
    _ ≤ 10 ^ (digitCount d - 1 + (f - base).toNat) := Nat.pow_le_pow_right (by decide) hle
    _ = 10 ^ (digitCount d - 1) * 10 ^ (f - base).toNat := Nat.pow_add ..
    _ ≤ alignedTo base d f := Nat.mul_le_mul_right _ (pow_digitCount_le hd)

theorem lessAligned_iff {base e f : Int} (c d : Nat) (he : base ≤ e) (hf : base ≤ f) :
    lessAligned c e d f = true ↔ alignedTo base c e < alignedTo base d f := by
  have hmin : base ≤ min e f := Int.le_min.2 ⟨he, hf⟩
  rw [lessAligned, decide_eq_true_iff, alignedTo_lower c hmin (Int.min_le_left e f),
    alignedTo_lower d hmin (Int.min_le_right e f)]
  exact (Nat.mul_lt_mul_right (Nat.pow_pos (by decide))).symm

/-- One number is less than another exactly if its coefficient at a common exponent is less. -/
theorem magnitudeLess_iff {base e f : Int} (c d : Nat) (he : base ≤ e) (hf : base ≤ f) :
    magnitudeLess c e d f = true ↔ alignedTo base c e < alignedTo base d f := by
  unfold magnitudeLess
  split
  · exact lessAligned_iff c d he hf
  · split
    · next hd => simp [hd, alignedTo]
    · next hd =>
      split
      · next hc =>
        have : 0 < alignedTo base d f :=
          Nat.mul_pos (Nat.pos_of_ne_zero hd) (Nat.pow_pos (by decide))
        simpa [hc, alignedTo] using this
      · next hc =>
        split
        · exact lessAligned_iff c d he hf
        · next hp =>
          rw [decide_eq_true_iff]
          constructor
          · exact alignedTo_lt_of_place_lt he hf (Nat.pos_of_ne_zero hd)
          · intro h
            refine Int.not_le.1 fun hle => ?_
            have hlt : place d f < place c e := by omega
            have := alignedTo_lt_of_place_lt hf he (Nat.pos_of_ne_zero hc) hlt
            omega

/-- Strict order by value; nothing is below or above a NaN. -/
def lt : Decimal → Decimal → Bool
  | .nan _ _ _, _ | _, .nan _ _ _ => false
  | .infinity s, .infinity t => s && !t
  | .infinity s, .finite _ _ _ => s
  | .finite _ _ _, .infinity t => !t
  | .finite false c e, .finite false d f => magnitudeLess c e d f
  | .finite true c e, .finite true d f => magnitudeLess d f c e
  | .finite true c _, .finite false d _ => c != 0 || d != 0
  | .finite false _ _, .finite true _ _ => false

/-- Order by value; a NaN is not even below itself. -/
def le (a b : Decimal) : Bool := !a.isNaN && !b.isNaN && !lt b a

def same (a b : Decimal) : Bool := le a b && le b a

end Decimal

end TabularSchema
