import TabularSchema.Proofs.DecimalValue

/-!
# What the text of a number denotes

A numeral is digits with at most one point among them, after an optional sign and before an optional
exponent; the digits may be of any script. `Numeral.Denotes` gives it the value that its places
have. A decimal is read with one coefficient for all digits and an exponent that accounts for the
point. Main statement: `denotes_iff`, by which a text denotes the exact value of the decimal that is
read from it, and nothing where no finite decimal is.
-/

namespace TabularSchema

namespace Numeral

open Text Decimal

/-- A run of characters that are digits of the given values. -/
def Digits (cs : List Char) (ds : List Nat) : Prop := cs.map digitValue? = ds.map some

/-- An optional sign; the second argument says whether it is a minus. -/
inductive Sign : List Char → Bool → Prop
  | absent : Sign [] false
  | plus : Sign ['+'] false
  | minus : Sign ['-'] true

/-- Digits, or digits with a point before, among or after them. -/
inductive Mantissa : List Char → ℚ → Prop
  | whole {cs : List Char} {ds : List Nat} :
    Digits cs ds → ds ≠ [] → Mantissa cs (digitsValue ds)
  | point {cs fs : List Char} {ds es : List Nat} :
    Digits cs ds → Digits fs es → ds ++ es ≠ [] →
      Mantissa (cs ++ '.' :: fs) (digitsValue ds + digitsValue es / 10 ^ es.length)

inductive Exponent : List Char → Int → Prop
  | absent : Exponent [] 0
  | power {mark : Char} {sign cs : List Char} {negative : Bool} {ds : List Nat} :
    mark = 'e' ∨ mark = 'E' → Sign sign negative → Digits cs ds → ds ≠ [] →
      Exponent (mark :: (sign ++ cs)) (withSign negative (digitsValue ds : Int))

/-- The text is a numeral of the given value. -/
def Denotes (s : String) (q : ℚ) : Prop :=
  ∃ (sign mantissa exponent : List Char) (negative : Bool) (m : ℚ) (e : Int),
    s.toList = sign ++ (mantissa ++ exponent) ∧ Sign sign negative ∧ Mantissa mantissa m ∧
      Exponent exponent e ∧ q = withSign negative (m * 10 ^ e)

section Value

theorem foldl_digits (ds : List Nat) (acc : Nat) :
    ds.foldl (fun acc d => acc * 10 + d) acc = acc * 10 ^ ds.length + digitsValue ds := by
  unfold digitsValue
  induction ds generalizing acc with
  | nil => simp
  | cons d ds ih =>
    rw [List.foldl_cons, List.foldl_cons, ih, ih (0 * 10 + d), List.length_cons, pow_succ]
    ring

theorem digitsValue_append (ds es : List Nat) :
    digitsValue (ds ++ es) = digitsValue ds * 10 ^ es.length + digitsValue es := by
  rw [digitsValue, List.foldl_append, foldl_digits]
  rfl

/-- One coefficient for all digits has the value of the places before and after the point. -/
theorem magnitude_append (ds es : List Nat) (e : Int) :
    magnitude (digitsValue (ds ++ es)) (e - (es.length : Int)) =
      (digitsValue ds + digitsValue es / 10 ^ es.length : ℚ) * 10 ^ e := by
  have hpow : (10 : ℚ) ^ es.length ≠ 0 := pow_ne_zero _ (by norm_num)
  rw [magnitude, digitsValue_append, zpow_sub₀ (by norm_num), zpow_natCast]
  push_cast
  field_simp

end Value

section Spans

theorem digits_cons_iff {c : Char} {cs : List Char} {ds : List Nat} :
    Digits (c :: cs) ds ↔ ∃ d es, ds = d :: es ∧ digitValue? c = some d ∧ Digits cs es := by
  cases ds with
  | nil => simp [Digits]
  | cons d es =>
    constructor
    · intro h
      have hcons : digitValue? c = some d ∧ cs.map digitValue? = es.map some := by
        simpa [Digits] using h
      exact ⟨d, es, rfl, hcons.1, hcons.2⟩
    · rintro ⟨d', es', hds, hc, hcs⟩
      obtain ⟨rfl, rfl⟩ := List.cons.inj hds
      simpa [Digits] using ⟨hc, hcs⟩

theorem digits_nil_iff {ds : List Nat} : Digits [] ds ↔ ds = [] := by
  cases ds <;> simp [Digits]

theorem spanDigits_spec (cs : List Char) :
    ∃ run, Digits run (spanDigits digitValue? cs).1 ∧
      cs = run ++ (spanDigits digitValue? cs).2 := by
  induction cs with
  | nil => exact ⟨[], rfl, rfl⟩
  | cons c cs ih =>
    obtain ⟨run, hrun, hcs⟩ := ih
    cases hc : digitValue? c with
    | none => exact ⟨[], by simp [spanDigits, hc, Digits], by simp [spanDigits, hc]⟩
    | some d =>
      refine ⟨c :: run, ?_, ?_⟩
      · simp only [spanDigits, hc]
        exact digits_cons_iff.2 ⟨d, _, rfl, hc, hrun⟩
      · simp only [spanDigits, hc, List.cons_append]
        rw [← hcs]

def NoDigitNext (cs : List Char) : Prop := ∀ c ∈ cs.head?, digitValue? c = none

theorem spanDigits_append {cs rest : List Char} {ds : List Nat} (h : Digits cs ds)
    (hrest : NoDigitNext rest) : spanDigits digitValue? (cs ++ rest) = (ds, rest) := by
  induction cs generalizing ds with
  | nil =>
    obtain rfl := digits_nil_iff.1 h
    cases rest with
    | nil => rfl
    | cons c cs => simp [spanDigits, hrest c rfl]
  | cons c cs ih =>
    obtain ⟨d, es, rfl, hc, hcs⟩ := digits_cons_iff.1 h
    rw [List.cons_append, spanDigits, hc, ih hcs]

end Spans

theorem exists_sign (cs : List Char) :
    ∃ sign, Sign sign (readSign cs).1 ∧ cs = sign ++ (readSign cs).2 := by
  fun_cases readSign cs with
  | case1 cs => exact ⟨['+'], .plus, rfl⟩
  | case2 cs => exact ⟨['-'], .minus, rfl⟩
  | case3 cs hplus hminus => exact ⟨[], .absent, rfl⟩

theorem readSign_append {sign cs : List Char} {negative : Bool} (h : Sign sign negative)
    (hcs : ∀ c ∈ cs.head?, c ≠ '+' ∧ c ≠ '-') : readSign (sign ++ cs) = (negative, cs) := by
  cases h with
  | plus => rfl
  | minus => rfl
  | absent =>
    cases cs with
    | nil => rfl
    | cons c cs =>
      obtain ⟨hplus, hminus⟩ := hcs c rfl
      simp [readSign, hplus, hminus]

theorem ne_of_digitValue? {c m : Char} {d : Nat} (hc : digitValue? c = some d)
    (hm : digitValue? m = none) : c ≠ m := by
  rintro rfl
  rw [hm] at hc
  cases hc

section Exponents

theorem exponent_of_readExponent? {cs : List Char} {e : Int}
    (h : readExponent? digitValue? cs = some e) : Exponent cs e := by
  cases cs with
  | nil =>
    obtain rfl := Option.some.inj h
    exact .absent
  | cons c cs =>
    rw [readExponent?] at h
    split at h
    · next hmark =>
      obtain ⟨sign, hsign, hcs⟩ := exists_sign cs
      obtain ⟨run, hrun, hrest⟩ := spanDigits_spec (readSign cs).2
      rcases hread : readSign cs with ⟨negative, unsigned⟩
      rcases hspan : spanDigits digitValue? unsigned with ⟨ds, rest⟩
      simp only [hread, hspan] at h hsign hcs hrun hrest
      split at h
      · next d ds' hds =>
        obtain ⟨rfl, rfl⟩ := Prod.mk.inj hds
        obtain rfl := Option.some.inj h
        rw [hcs, hrest, List.append_nil]
        exact .power hmark hsign hrun (List.cons_ne_nil d ds')
      · cases h
    · cases h

theorem Digits.head_ne_sign {cs : List Char} {ds : List Nat} (h : Digits cs ds) :
    ∀ c ∈ cs.head?, c ≠ '+' ∧ c ≠ '-' := by
  cases cs with
  | nil => simp
  | cons c cs =>
    obtain ⟨d, es, rfl, hc, -⟩ := digits_cons_iff.1 h
    rintro _ ⟨⟩
    exact ⟨ne_of_digitValue? hc (by decide), ne_of_digitValue? hc (by decide)⟩

theorem Exponent.readExponent? {cs : List Char} {e : Int} (h : Exponent cs e) :
    readExponent? digitValue? cs = some e := by
  cases h with
  | absent => rfl
  | @power mark sign run negative ds hmark hsign hrun hne =>
    have hread : readSign (sign ++ run) = (negative, run) :=
      readSign_append hsign hrun.head_ne_sign
    have hend : NoDigitNext [] := by simp [NoDigitNext]
    have hspan : spanDigits digitValue? run = (ds, []) := by
      simpa using spanDigits_append hrun hend
    obtain ⟨d, es, rfl⟩ := List.exists_cons_of_ne_nil hne
    rw [Text.readExponent?, if_pos hmark, hread]
    simp only [hspan]
    rfl

theorem Exponent.noDigitNext {cs : List Char} {e : Int} (h : Exponent cs e) : NoDigitNext cs := by
  cases h with
  | absent => simp [NoDigitNext]
  | power hmark _ _ _ =>
    rintro _ ⟨⟩
    rcases hmark with rfl | rfl <;> decide

theorem Exponent.head_ne_point {cs : List Char} {e : Int} (h : Exponent cs e) (fs : List Char) :
    cs ≠ '.' :: fs := by
  cases h with
  | absent => simp
  | power hmark _ _ _ => rcases hmark with rfl | rfl <;> simp

end Exponents

section Digits

variable {cs rest : List Char} {ds es : List Nat}

theorem readDigits?_of_point {fs : List Char} (hspan : spanDigits digitValue? cs = (ds, '.' :: fs))
    (hfraction : spanDigits digitValue? fs = (es, rest)) :
    readDigits? digitValue? cs =
      if ds ++ es = [] then none
      else (readExponent? digitValue? rest).map fun e =>
        (digitsValue (ds ++ es), e - (es.length : Int)) := by
  simp [readDigits?, hspan, hfraction]

theorem readDigits?_of_no_point (hspan : spanDigits digitValue? cs = (ds, rest))
    (hrest : ∀ fs, rest ≠ '.' :: fs) :
    readDigits? digitValue? cs =
      if ds = [] then none
      else (readExponent? digitValue? rest).map fun e => (digitsValue ds, e) := by
  simp [readDigits?, hspan]

theorem exists_mantissa_of_readDigits? {c : Nat} {k : Int}
    (h : readDigits? digitValue? cs = some (c, k)) :
    ∃ mantissa exponent m e, cs = mantissa ++ exponent ∧ Mantissa mantissa m ∧
      Exponent exponent e ∧ magnitude c k = m * 10 ^ e := by
  obtain ⟨run, hrun, hcs⟩ := spanDigits_spec cs
  rcases hspan : spanDigits digitValue? cs with ⟨ds, rest⟩
  simp only [hspan] at hrun hcs
  by_cases hpoint : ∃ fs, rest = '.' :: fs
  · obtain ⟨fs, rfl⟩ := hpoint
    obtain ⟨places, hplaces, hfs⟩ := spanDigits_spec fs
    rcases hfraction : spanDigits digitValue? fs with ⟨es, rest⟩
    simp only [hfraction] at hplaces hfs
    rw [readDigits?_of_point hspan hfraction] at h
    split at h
    · cases h
    · next hne =>
      obtain ⟨e, he, heq⟩ := Option.map_eq_some_iff.1 h
      obtain ⟨rfl, rfl⟩ := Prod.mk.inj heq
      refine ⟨run ++ '.' :: places, rest, _, e, ?_, .point hrun hplaces hne,
        exponent_of_readExponent? he, magnitude_append ds es e⟩
      rw [hcs, hfs, List.append_assoc, List.cons_append]
  · rw [readDigits?_of_no_point hspan fun fs hfs => hpoint ⟨fs, hfs⟩] at h
    split at h
    · cases h
    · next hne =>
      obtain ⟨e, he, heq⟩ := Option.map_eq_some_iff.1 h
      obtain ⟨rfl, rfl⟩ := Prod.mk.inj heq
      exact ⟨run, rest, _, e, hcs, .whole hrun hne, exponent_of_readExponent? he, rfl⟩

theorem Mantissa.readDigits? {mantissa exponent : List Char} {m : ℚ} {e : Int}
    (hm : Mantissa mantissa m) (he : Exponent exponent e) :
    ∃ c k, readDigits? digitValue? (mantissa ++ exponent) = some (c, k) ∧
      magnitude c k = m * 10 ^ e := by
  cases hm with
  | whole hds hne =>
    refine ⟨_, e, ?_, rfl⟩
    rw [readDigits?_of_no_point (spanDigits_append hds he.noDigitNext) he.head_ne_point,
      if_neg hne, he.readExponent?, Option.map_some]
  | @point _ fs ds es hds hes hne =>
    refine ⟨digitsValue (ds ++ es), e - (es.length : Int), ?_, magnitude_append ds es e⟩
    have hnext : NoDigitNext ('.' :: (fs ++ exponent)) := by
      rintro _ ⟨⟩
      decide
    rw [List.append_assoc, List.cons_append,
      readDigits?_of_point (spanDigits_append hds hnext) (spanDigits_append hes he.noDigitNext),
      if_neg hne, he.readExponent?, Option.map_some]

end Digits

section Special

theorem toRat?_of_readSpecial? {negative : Bool} {cs : List Char} {d : Decimal}
    (h : readSpecial? negative cs = some d) : d.toRat? = none := by
  have hpayload {signaling : Bool} {rest : List Char}
      (h : readPayload? negative signaling rest = some d) : d.toRat? = none := by
    rw [readPayload?] at h
    split at h
    · obtain rfl := Option.some.inj h
      rfl
    · cases h
  rw [readSpecial?] at h
  split at h
  · obtain rfl := Option.some.inj h
    rfl
  · obtain rfl := Option.some.inj h
    rfl
  · exact hpayload h
  · exact hpayload h
  · cases h

theorem toLower_of_digitValue? {c : Char} {d : Nat} (h : digitValue? c = some d) :
    c.toLower = c := by
  delta Char.toLower
  split
  · next hrange =>
    have hlow : 65 ≤ c.toNat := hrange.1
    have hhigh : c.toNat ≤ 90 := hrange.2
    have hzeros : ∀ z ∈ digitZeros, z + 10 ≤ 65 ∨ 90 < z := by decide
    have hnone : digitValue? c = none := by
      rw [digitValue?, Option.map_eq_none_iff, List.find?_eq_none]
      intro z hz
      have := hzeros z hz
      rw [decide_eq_true_iff]
      omega
    rw [hnone] at h
    cases h
  · rfl

theorem readSpecial?_cons (negative : Bool) {c : Char} (cs : List Char)
    (hc : c.toLower ∉ ['i', 'n', 's']) : readSpecial? negative (c :: cs) = none := by
  obtain ⟨hi, hn, hs⟩ : c.toLower ≠ 'i' ∧ c.toLower ≠ 'n' ∧ c.toLower ≠ 's' := by
    simpa using hc
  simp [readSpecial?, hi, hn, hs]

theorem Mantissa.exists_head {cs : List Char} {m : ℚ} (h : Mantissa cs m) :
    ∃ c rest, cs = c :: rest ∧ (c = '.' ∨ ∃ d, digitValue? c = some d) := by
  have hdigit {c : Char} {cs : List Char} {ds : List Nat} (h : Digits (c :: cs) ds) :
      ∃ d, digitValue? c = some d := by
    obtain ⟨d, _, _, hd, _⟩ := digits_cons_iff.1 h
    exact ⟨d, hd⟩
  cases h with
  | whole hds hne =>
    cases cs with
    | nil => exact absurd (digits_nil_iff.1 hds) hne
    | cons c rest => exact ⟨c, rest, rfl, .inr (hdigit hds)⟩
  | @point whole fs _ _ hds _ _ =>
    cases whole with
    | nil => exact ⟨'.', fs, rfl, .inl rfl⟩
    | cons c rest => exact ⟨c, rest ++ '.' :: fs, rfl, .inr (hdigit hds)⟩

theorem Mantissa.readSpecial? (negative : Bool) {mantissa : List Char} {m : ℚ}
    (h : Mantissa mantissa m) (rest : List Char) :
    readSpecial? negative (mantissa ++ rest) = none := by
  obtain ⟨c, cs, rfl, hc⟩ := h.exists_head
  apply readSpecial?_cons
  rcases hc with rfl | ⟨d, hd⟩
  · decide
  · have hi : c ≠ 'i' := ne_of_digitValue? hd (by decide)
    have hn : c ≠ 'n' := ne_of_digitValue? hd (by decide)
    have hs : c ≠ 's' := ne_of_digitValue? hd (by decide)
    rw [toLower_of_digitValue? hd]
    simp [hi, hn, hs]

theorem Mantissa.readSign {sign mantissa rest : List Char} {negative : Bool} {m : ℚ}
    (hsign : Sign sign negative) (h : Mantissa mantissa m) :
    readSign (sign ++ (mantissa ++ rest)) = (negative, mantissa ++ rest) := by
  apply readSign_append hsign
  obtain ⟨c, cs, rfl, hc⟩ := h.exists_head
  rintro _ ⟨⟩
  rcases hc with rfl | ⟨d, hd⟩
  · decide
  · exact ⟨ne_of_digitValue? hd (by decide), ne_of_digitValue? hd (by decide)⟩

end Special

theorem denotes_iff {s : String} {q : ℚ} : Denotes s q ↔ (parse? s).bind toRat? = some q := by
  constructor
  · rintro ⟨sign, mantissa, exponent, negative, m, e, hs, hsign, hm, he, rfl⟩
    obtain ⟨c, k, hread, hvalue⟩ := hm.readDigits? he
    rw [parse?, hs, hm.readSign hsign]
    simp only [hm.readSpecial? negative exponent, Option.none_or, readFinite?, hread,
      Option.map_some, Option.bind_some, toRat?_finite, hvalue]
  · intro h
    obtain ⟨d, hd, hvalue⟩ := Option.bind_eq_some_iff.1 h
    obtain ⟨sign, hsign, hs⟩ := exists_sign s.toList
    rcases hread : Text.readSign s.toList with ⟨negative, cs⟩
    simp only [hread] at hsign hs
    simp only [parse?, hread, Option.or_eq_some_iff] at hd
    rcases hd with hspecial | ⟨_, hfinite⟩
    · rw [toRat?_of_readSpecial? hspecial] at hvalue
      cases hvalue
    · obtain ⟨⟨c, k⟩, hdigits, rfl⟩ := Option.map_eq_some_iff.1 hfinite
      obtain ⟨mantissa, exponent, m, e, hcs, hm, he, hck⟩ := exists_mantissa_of_readDigits? hdigits
      refine ⟨sign, mantissa, exponent, negative, m, e, by rw [hs, hcs], hsign, hm, he, ?_⟩
      rw [toRat?_finite, hck] at hvalue
      exact (Option.some.inj hvalue).symm

theorem denotes_intCast_iff {s : String} {n : Int} :
    Denotes s n ↔ (parse? s).bind toInt? = some n := by
  rw [denotes_iff, Option.bind_eq_some_iff, Option.bind_eq_some_iff]
  simp only [toInt?_eq_some_iff]

/-- The text denotes an integer from the first bound on and below the second. -/
def DenotesWithin (s : String) (low high : Int) : Prop :=
  ∃ n : Int, Denotes s n ∧ low ≤ n ∧ n < high

theorem denotesWithin_iff {s : String} {low high : Int} :
    DenotesWithin s low high ↔ ∃ n ∈ (parse? s).bind toInt?, low ≤ n ∧ n < high := by
  simp only [DenotesWithin, denotes_intCast_iff, Option.mem_def]

instance (s : String) (low high : Int) : Decidable (DenotesWithin s low high) :=
  decidable_of_iff _ denotesWithin_iff.symm

end Numeral

end TabularSchema
