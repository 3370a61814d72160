import TabularSchema.Proofs.DecimalValue
import TabularSchema.Proofs.Sequencing
import TabularSchema.Settings.Environment

/-!
# Validated inference settings

A group of settings is valid if each of its fields is, so every validated sampling ratio has passed
the check of the ratio. If that check is sound, the ratio lies in the unit interval as an exact
number. Another ratio for settings that are in force goes through the same check and leaves the
other fields as they are.
-/

namespace TabularSchema

theorem Value.same_text_iff {k : Value} {name : String} :
    k.same (.text name) = true ↔ k = .text name := by
  cases k with
  | seq kind items => cases kind <;> simp [same, number?, byteContent?]
  | _ => simp [same, number?, byteContent?]

namespace Given

theorem get?_cons (k v : Value) (given : Given) (name : String) :
    get? ((k, v) :: given) name = if k.same (.text name) then some v else get? given name := by
  unfold get?
  rw [List.find?_cons]
  cases k.same (.text name) <;> simp

theorem get?_putEntry (given : Given) (m : String) (v : Value) (name : String) :
    get? (Value.putEntry (.text m) v given) name =
      if m = name then some v else given.get? name := by
  induction given with
  | nil =>
    rw [Value.putEntry, get?_cons]
    simp [Value.same]
  | cons e given ih =>
    obtain ⟨k, u⟩ := e
    rw [Value.putEntry]
    by_cases hk : k.same (.text m) = true
    · obtain rfl := Value.same_text_iff.1 hk
      rw [if_pos hk, get?_cons, get?_cons]
      by_cases hm : m = name <;> simp [Value.same, hm]
    · rw [if_neg hk, get?_cons, get?_cons, ih]
      by_cases hm : m = name
      · subst hm
        simp [hk]
      · simp [hm]

end Given

namespace Check

variable {α β : Type}

theorem both_eq_ok_iff {a : Check α} {b : Check β} {p : α × β} :
    a.both b = .ok p ↔ a = .ok p.1 ∧ b = .ok p.2 := by
  cases a <;> cases b <;> simp [both, Prod.ext_iff]

theorem field_eq_ok_iff {given : Given} {name : String} {default a : α}
    {read : Value → Except Rule α} :
    field given name default read = .ok a ↔
      (given.get? name = none ∧ default = a) ∨ ∃ v, given.get? name = some v ∧ read v = .ok a := by
  unfold field
  cases given.get? name with
  | none => simp
  | some v => cases h : read v <;> simp [h]

end Check

theorem Sampling.inUnitInterval_iff {r : Decimal} :
    inUnitInterval r = true ↔ ∃ q, r.toRat? = some q ∧ 0 ≤ q ∧ q ≤ 1 := by
  rw [inUnitInterval, Bool.and_eq_true]
  constructor
  · rintro ⟨hzero, hone⟩
    obtain ⟨q, hq, hzero, hone⟩ := Decimal.exists_toRat?_of_between hzero hone
    exact ⟨q, hq, by simpa using hzero, by simpa using hone⟩
  · rintro ⟨q, hq, hzero, hone⟩
    constructor
    · exact (Decimal.le_iff (Decimal.toRat?_ofInt 0) hq).2 (by simpa using hzero)
    · exact (Decimal.le_iff hq (Decimal.toRat?_ofInt 1)).2 (by simpa using hone)

namespace BoundCheck

/-- A number is refused exactly if it compares above, or below, the bound. A NaN compares in neither
way, and is refused all the same. -/
structure Sound [BoundCheck] : Prop where
  above_number (bound : Int) {x : Binary64} (hx : x ≠ .nan) :
    above bound x = (Decimal.ofInt bound).lt x.toDecimal
  below_number (bound : Int) {x : Binary64} (hx : x ≠ .nan) :
    below bound x = x.toDecimal.lt (.ofInt bound)
  above_nan (bound : Int) : above bound .nan = true
  below_nan (bound : Int) : below bound .nan = true

theorem Sound.standard : @Sound standard where
  above_number _ _ hx := by simp [above, Decimal.le, Binary64.isNaN_toDecimal hx]
  below_number _ _ hx := by simp [below, Decimal.le, Binary64.isNaN_toDecimal hx]
  above_nan _ := rfl
  below_nan _ := rfl

/-- Refuses what compares above, or below, the bound, and so no NaN. -/
@[reducible]
def comparing : BoundCheck where
  above bound x := (Decimal.ofInt bound).lt x.toDecimal
  below bound x := x.toDecimal.lt (.ofInt bound)

/-- What a sound check leaves within the bounds of the unit interval is a number of it. -/
theorem Sound.inUnitInterval [BoundCheck] (hsound : Sound) {x : Binary64}
    (habove : above 1 x = false) (hbelow : below 0 x = false) :
    Sampling.inUnitInterval x.toDecimal = true := by
  have hx : x ≠ .nan := by
    rintro rfl
    rw [hsound.above_nan] at habove
    cases habove
  rw [hsound.above_number 1 hx] at habove
  rw [hsound.below_number 0 hx] at hbelow
  simp [Sampling.inUnitInterval, Decimal.le, Binary64.isNaN_toDecimal hx, habove,
    hbelow]

end BoundCheck

namespace Settings

theorem within_of_ratio [BoundCheck] {v : Value} {x : Binary64} (h : ratio v = .ok x) :
    BoundCheck.above 1 x = false ∧ BoundCheck.below 0 x = false := by
  rw [ratio, bind_eq_ok_iff] at h
  obtain ⟨y, -, h⟩ := h
  split at h
  · cases h
  · next habove =>
    split at h
    · cases h
    · next hbelow =>
      obtain rfl := Except.ok.inj h
      exact ⟨Bool.eq_false_iff.2 habove, Bool.eq_false_iff.2 hbelow⟩

theorem positive_ofInt (n : Int) :
    positive (.ofInt n) = if 0 < n then .ok n else .error .isPositive := rfl

theorem eq_of_positive_ofInt {n m : Int} (h : positive (.ofInt n) = .ok m) : m = n := by
  rw [positive_ofInt] at h
  split at h
  · exact (Except.ok.inj h).symm
  · cases h

end Settings

namespace InferenceSettings

/-- The ratio lies in the unit interval, so a sampler accepts it. -/
def Usable (s : InferenceSettings) : Prop := Sampling.inUnitInterval s.ratio.toDecimal = true

theorem Usable.default : InferenceSettings.default.Usable := by
  unfold Usable
  decide +kernel

theorem Usable.exists_toRat? {s : InferenceSettings} (h : s.Usable) :
    ∃ q, s.ratio.toRat? = some q ∧ 0 ≤ q ∧ q ≤ 1 := by
  obtain ⟨q, hq, hunit⟩ := Sampling.inUnitInterval_iff.1 h
  rw [Binary64.toRat?_toDecimal] at hq
  exact ⟨q, hq, hunit⟩

theorem validate_eq_ok_iff [BoundCheck] {given : Given} {s : InferenceSettings} :
    validate given = .ok s ↔
      Check.field given "sampling_ratio" default.ratio Settings.ratio = .ok s.ratio ∧
      Check.field given "seed" default.seed Settings.integer = .ok s.seed ∧
      Check.field given "max_records" default.maxRecords Settings.positive = .ok s.maxRecords ∧
      Check.field given "page_size" default.pageSize Settings.positive = .ok s.pageSize := by
  rw [validate, map_eq_ok_iff]
  constructor
  · rintro ⟨⟨ratio, seed, maxRecords, pageSize⟩, h, rfl⟩
    simpa only [Check.both_eq_ok_iff] using h
  · intro h
    refine ⟨(s.ratio, s.seed, s.maxRecords, s.pageSize), ?_, rfl⟩
    simpa only [Check.both_eq_ok_iff] using h

theorem Usable.of_validate [BoundCheck] (hsound : BoundCheck.Sound) {given : Given}
    {s : InferenceSettings} (h : validate given = .ok s) : s.Usable := by
  rcases Check.field_eq_ok_iff.1 (validate_eq_ok_iff.1 h).1 with ⟨_, hdefault⟩ | ⟨v, _, hv⟩
  · have husable := Usable.default
    rw [Usable, hdefault] at husable
    exact husable
  · obtain ⟨habove, hbelow⟩ := Settings.within_of_ratio hv
    exact hsound.inUnitInterval habove hbelow

theorem get?_entries (s : InferenceSettings) :
    ∀ e ∈ s.entries,
      Given.get? (s.entries.map fun e => (.text e.1, e.2)) e.1 = some e.2 := by
  simp [entries, Given.get?_cons, Value.same]

theorem get?_putRatio {s : InferenceSettings} {e : String × Value} (he : e ∈ s.entries)
    (hne : "sampling_ratio" ≠ e.1) (ratio : Value) :
    Given.get? (Value.putEntry (.text "sampling_ratio") ratio
      (s.entries.map fun e => (.text e.1, e.2))) e.1 = some e.2 := by
  rw [Given.get?_putEntry, if_neg hne, get?_entries s e he]

theorem field_entry_eq_ok {α : Type} {s : InferenceSettings} {ratio : Value} {default a : α}
    {read : Value → Except Rule α} {e : String × Value} (he : e ∈ s.entries)
    (hne : "sampling_ratio" ≠ e.1)
    (h : Check.field (Value.putEntry (.text "sampling_ratio") ratio
      (s.entries.map fun e => (.text e.1, e.2))) e.1 default read = .ok a) :
    read e.2 = .ok a := by
  have hget := get?_putRatio he hne ratio
  rcases Check.field_eq_ok_iff.1 h with ⟨hnone, _⟩ | ⟨v, hv, hread⟩
  · rw [hget] at hnone
    cases hnone
  · rw [hget] at hv
    obtain rfl := Option.some.inj hv
    exact hread

theorem eq_withRatio [BoundCheck] {s s' : InferenceSettings} {ratio : Value}
    (h : s.withRatio ratio = .ok s') : s' = { s with ratio := s'.ratio } := by
  obtain ⟨_, hseed, hmax, hpage⟩ := validate_eq_ok_iff.1 h
  have hseed : Settings.integer (.ofInt s.seed) = .ok s'.seed :=
    field_entry_eq_ok (e := ("seed", _)) (by simp [entries]) (by simp) hseed
  have hmax : Settings.positive (.ofInt s.maxRecords) = .ok s'.maxRecords :=
    field_entry_eq_ok (e := ("max_records", _)) (by simp [entries]) (by simp) hmax
  have hpage : Settings.positive (.ofInt s.pageSize) = .ok s'.pageSize :=
    field_entry_eq_ok (e := ("page_size", _)) (by simp [entries]) (by simp) hpage
  have hseed' : s'.seed = s.seed := (Except.ok.inj hseed).symm
  have hmax' := Settings.eq_of_positive_ofInt hmax
  have hpage' := Settings.eq_of_positive_ofInt hpage
  rw [← hseed', ← hmax', ← hpage']

end InferenceSettings

end TabularSchema
