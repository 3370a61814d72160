import Mathlib.Data.List.Lex
import Mathlib.Data.List.Sort
import Mathlib.Data.String.Basic
import TabularSchema.Proofs.ItemPlaces

/-!
# Sets as ascending lists

Numbers with exact values, texts and byte strings are totally ordered among their own kind:
`Precedes`. Sorting decides by this order, so values of which always one stands before the other are
sorted without a failure (`sort_ascending`), and no other list of them is ascending. Main statement:
a set of finite numbers, of texts or of byte strings becomes the one ascending list of the values of
its members, whatever the order in which they come and wherever the set stands in an item.
-/

namespace TabularSchema

namespace Value

/-- The exact value of a number of any kind, if it is finite. -/
def exactValue? (v : Value) : Option ℚ := v.number?.bind Decimal.toRat?

/-- Strictly before another value: by exact value, by code point or bytewise. -/
inductive Precedes : Value → Value → Prop
  | number {a b : Value} {p q : ℚ} :
    a.exactValue? = some p → b.exactValue? = some q → p < q → Precedes a b
  | text {s t : String} : s < t → Precedes (.text s) (.text t)
  | bytes {p q : List UInt8} : p < q → Precedes (.bytes .fixed p) (.bytes .fixed q)

/-- The same number, the same text, or the same bytes without their wrapper. -/
inductive SameValue : Value → Value → Prop
  | number {a b : Value} {q : ℚ} :
    a.exactValue? = some q → b.exactValue? = some q → SameValue a b
  | text (s : String) : SameValue (.text s) (.text s)
  | bytes {a : Value} {data : List UInt8} :
    a.byteContent? = some data → SameValue a (.bytes .fixed data)

/-- Members of a set that are all finite numbers, all texts or all byte strings. -/
inductive Sortable (items : List Value) : Prop
  | numbers : (∀ x ∈ items, ∃ q, x.exactValue? = some q) → Sortable items
  | texts : (∀ x ∈ items, ∃ s, x = .text s) → Sortable items
  | bytes : (∀ x ∈ items, ∃ data, x = .bytes .fixed data ∨ x = .wrapped .fixed data) →
    Sortable items

def Distinct (items : List Value) : Prop := items.Pairwise fun a b => a.same b = false

section Order

theorem Precedes.trans {a b c : Value} (hab : Precedes a b) (hbc : Precedes b c) :
    Precedes a c := by
  cases hab with
  | number ha hb hpq =>
    cases hbc with
    | number hb' hc hqr =>
      rw [hb] at hb'
      obtain rfl := Option.some.inj hb'
      exact .number ha hc (hpq.trans hqr)
    | text _ => cases hb
    | bytes _ => cases hb
  | text hst =>
    cases hbc with
    | number hb _ _ => cases hb
    | text htu => exact .text (hst.trans htu)
  | bytes hpq =>
    cases hbc with
    | number hb _ _ => cases hb
    | bytes hqr => exact .bytes (List.lt_trans hpq hqr)

theorem Precedes.irrefl (a : Value) : ¬ Precedes a a := by
  intro h
  cases h with
  | number hp hq hlt =>
    rw [hp] at hq
    obtain rfl := Option.some.inj hq
    exact lt_irrefl _ hlt
  | text hlt => exact lt_irrefl _ hlt
  | bytes hlt => exact List.lt_irrefl _ hlt

theorem less_of_number? {a b : Value} {c d : Decimal} (ha : a.number? = some c)
    (hb : b.number? = some d) : less a b = lessScalar a b := by
  unfold less
  split <;> first | rfl | cases ha

theorem less_of_exactValue? {a b : Value} {p q : ℚ} (ha : a.exactValue? = some p)
    (hb : b.exactValue? = some q) : less a b = .ok (decide (p < q)) := by
  obtain ⟨c, hc, hp⟩ := Option.bind_eq_some_iff.1 ha
  obtain ⟨d, hd, hq⟩ := Option.bind_eq_some_iff.1 hb
  have hnan {c : Decimal} {r : ℚ} (h : c.toRat? = some r) : c.isNaN = false := by
    obtain ⟨s, n, e, rfl, -⟩ := Decimal.exists_finite_of_toRat? h
    rfl
  have hlt : c.lt d = decide (p < q) := by
    rw [Bool.eq_iff_iff, Decimal.lt_iff hp hq, decide_eq_true_iff]
  rw [less_of_number? hc hd]
  simp only [lessScalar, hc, hd, hnan hp, hnan hq, hlt, Bool.or_self, Bool.and_false,
    Bool.false_eq_true, if_false]

theorem less_of_precedes {a b : Value} (h : Precedes a b) :
    less a b = .ok true ∧ less b a = .ok false := by
  cases h with
  | number ha hb hpq =>
    rw [less_of_exactValue? ha hb, less_of_exactValue? hb ha, decide_eq_true hpq,
      decide_eq_false hpq.asymm]
    exact ⟨rfl, rfl⟩
  | @text s t hst =>
    have hless (s t : String) : less (.text s) (.text t) = .ok (decide (s < t)) := rfl
    rw [hless, hless, decide_eq_true hst, decide_eq_false hst.asymm]
    exact ⟨rfl, rfl⟩
  | @bytes p q hpq =>
    have hless (p q : List UInt8) :
        less (.bytes .fixed p) (.bytes .fixed q) = .ok (decide (p < q)) := rfl
    rw [hless, hless, decide_eq_true hpq, decide_eq_false (List.lt_asymm hpq)]
    exact ⟨rfl, rfl⟩

def Apart (a b : Value) : Prop := Precedes a b ∨ Precedes b a

theorem Apart.symm {a b : Value} (h : Apart a b) : Apart b a := Or.symm h

theorem insertLast_ascending {pivot : Value} {vs : List Value} (hvs : vs.Pairwise Precedes)
    (hpivot : ∀ v ∈ vs, Apart pivot v) :
    ∃ ws, insertLast pivot vs = .ok ws ∧ ws.Pairwise Precedes := by
  induction vs with
  | nil => exact ⟨[pivot], rfl, List.pairwise_singleton _ _⟩
  | cons v vs ih =>
    obtain ⟨hv, hrest⟩ := List.pairwise_cons.1 hvs
    obtain ⟨hpv, hpvs⟩ := List.forall_mem_cons.1 hpivot
    rcases hpv with hpv | hvp
    · refine ⟨pivot :: v :: vs, ?_, List.pairwise_cons.2 ⟨?_, hvs⟩⟩
      · rw [insertLast, (less_of_precedes hpv).1]
        rfl
      · exact List.forall_mem_cons.2 ⟨hpv, fun w hw => hpv.trans (hv w hw)⟩
    · obtain ⟨ws, hws, hascending⟩ := ih hrest hpvs
      have hinsert : insertLast pivot (v :: vs) = .ok (v :: ws) := by
        rw [insertLast, (less_of_precedes hvp).2]
        exact bind_eq_ok_iff.2 ⟨false, rfl, bind_eq_ok_iff.2 ⟨ws, hws, rfl⟩⟩
      refine ⟨v :: ws, hinsert, List.pairwise_cons.2 ⟨?_, hascending⟩⟩
      intro w hw
      rcases List.mem_cons.1 ((insertLast_perm hws).mem_iff.1 hw) with rfl | hw
      · exact hvp
      · exact hv w hw

theorem sort_ascending {vs : List Value} (h : vs.Pairwise Apart) :
    ∃ ws, sort vs = .ok ws ∧ ws.Pairwise Precedes := by
  have hfold (acc : List Value) (hacc : acc.Pairwise Precedes)
      (hapart : ∀ v ∈ vs, ∀ a ∈ acc, Apart v a) :
      ∃ ws, vs.foldlM (fun sorted v => insertLast v sorted) acc = .ok ws ∧
        ws.Pairwise Precedes := by
    induction vs generalizing acc with
    | nil => exact ⟨acc, rfl, hacc⟩
    | cons v vs ih =>
      obtain ⟨hv, hvs⟩ := List.pairwise_cons.1 h
      obtain ⟨hvacc, hapart⟩ := List.forall_mem_cons.1 hapart
      obtain ⟨acc', hacc', hascending⟩ := insertLast_ascending hacc hvacc
      obtain ⟨ws, hws, hsorted⟩ := ih hvs acc' hascending fun w hw a ha => by
        rcases List.mem_cons.1 ((insertLast_perm hacc').mem_iff.1 ha) with rfl | ha
        · exact (hv w hw).symm
        · exact hapart w hw a ha
      rw [List.foldlM_cons]
      exact ⟨ws, bind_eq_ok_iff.2 ⟨acc', hacc', hws⟩, hsorted⟩
  exact hfold [] List.Pairwise.nil (by simp)

theorem eq_of_ascending {vs ws : List Value} (hvs : vs.Pairwise Precedes)
    (hws : ws.Pairwise Precedes) (h : vs.Perm ws) : vs = ws := by
  refine List.Perm.eq_of_pairwise (fun a b _ _ hab hba => ?_) hvs hws h
  exact absurd (hab.trans hba) (Precedes.irrefl a)

theorem sort_eq_of_perm {vs vs' ws : List Value} (h : vs.Pairwise Apart) (hws : sort vs = .ok ws)
    (hperm : vs'.Perm vs) : sort vs' = .ok ws := by
  have hapart : vs'.Pairwise Apart := hperm.symm.pairwise h fun hab => hab.symm
  obtain ⟨ws', hws', hascending'⟩ := sort_ascending hapart
  obtain ⟨us, hus, hascending⟩ := sort_ascending h
  rw [hws] at hus
  obtain rfl := Except.ok.inj hus
  rw [hws', eq_of_ascending hascending' hascending]
  exact (sort_perm hws').trans (hperm.trans (sort_perm hws).symm)

end Order

section Members

theorem same_of_number? {a b : Value} {c d : Decimal} (ha : a.number? = some c)
    (hb : b.number? = some d) : a.same b = c.same d := by
  unfold same
  split <;> first | cases ha | simp only [ha, hb]

theorem same_of_exactValue? {a b : Value} {q : ℚ} (ha : a.exactValue? = some q)
    (hb : b.exactValue? = some q) : a.same b = true := by
  obtain ⟨c, hc, hcq⟩ := Option.bind_eq_some_iff.1 ha
  obtain ⟨d, hd, hdq⟩ := Option.bind_eq_some_iff.1 hb
  rw [same_of_number? hc hd, Decimal.same_iff hcq hdq]

theorem number?_of_byteContent? {a : Value} {data : List UInt8} (h : a.byteContent? = some data) :
    a.number? = none := by
  cases a <;> first | rfl | cases h

theorem same_of_byteContent? {a b : Value} {data : List UInt8} (ha : a.byteContent? = some data)
    (hb : b.byteContent? = some data) : a.same b = true := by
  unfold same
  split <;> first | cases ha | simp [ha, hb, number?_of_byteContent? ha]

theorem apart_of_exactValue? {a b : Value} {p q : ℚ} (ha : a.exactValue? = some p)
    (hb : b.exactValue? = some q) (hne : p ≠ q) : Apart a b := by
  rcases lt_or_gt_of_ne hne with hlt | hlt
  · exact .inl (.number ha hb hlt)
  · exact .inr (.number hb ha hlt)

theorem apart_text {s t : String} (hne : s ≠ t) : Apart (.text s) (.text t) := by
  rcases lt_or_gt_of_ne hne with hlt | hlt
  · exact .inl (.text hlt)
  · exact .inr (.text hlt)

theorem apart_bytes {p q : List UInt8} (hne : p ≠ q) :
    Apart (.bytes .fixed p) (.bytes .fixed q) := by
  by_cases hpq : p < q
  · exact .inl (.bytes hpq)
  · by_cases hqp : q < p
    · exact .inr (.bytes hqp)
    · exact absurd (Std.Trichotomous.trichotomous p q hpq hqp) hne

theorem SameValue.exactValue?_eq {x y : Value} (h : SameValue x y) {q : ℚ}
    (hx : x.exactValue? = some q) : y.exactValue? = some q := by
  cases h with
  | number hp hy => rw [hy, ← hp, hx]
  | text s => cases hx
  | bytes hdata =>
    rw [exactValue?, number?_of_byteContent? hdata] at hx
    cases hx

theorem SameValue.eq_text {s : String} {y : Value} (h : SameValue (.text s) y) : y = .text s := by
  cases h with
  | number hs _ => cases hs
  | text s => rfl
  | bytes hs => cases hs

theorem SameValue.eq_bytes {x y : Value} (h : SameValue x y) {data : List UInt8}
    (hx : x.byteContent? = some data) : y = .bytes .fixed data := by
  cases h with
  | number hp _ =>
    rw [exactValue?, number?_of_byteContent? hx] at hp
    cases hp
  | text s => cases hx
  | bytes hdata =>
    rw [hx] at hdata
    rw [Option.some.inj hdata]

theorem Sortable.apart {items : List Value} (h : Sortable items) {x x' y y' : Value}
    (hx : x ∈ items) (hx' : x' ∈ items) (hdistinct : x.same x' = false) (hy : SameValue x y)
    (hy' : SameValue x' y') : Apart y y' := by
  cases h with
  | numbers h =>
    obtain ⟨p, hp⟩ := h x hx
    obtain ⟨q, hq⟩ := h x' hx'
    apply apart_of_exactValue? (hy.exactValue?_eq hp) (hy'.exactValue?_eq hq)
    rintro rfl
    rw [same_of_exactValue? hp hq] at hdistinct
    cases hdistinct
  | texts h =>
    obtain ⟨s, rfl⟩ := h x hx
    obtain ⟨t, rfl⟩ := h x' hx'
    rw [hy.eq_text, hy'.eq_text]
    apply apart_text
    rintro rfl
    simp [same] at hdistinct
  | bytes h =>
    have hcontent {x : Value} (hx : ∃ data, x = .bytes .fixed data ∨ x = .wrapped .fixed data) :
        ∃ data, x.byteContent? = some data := by
      obtain ⟨data, rfl | rfl⟩ := hx
      · exact ⟨data, rfl⟩
      · exact ⟨data, rfl⟩
    obtain ⟨p, hp⟩ := hcontent (h x hx)
    obtain ⟨q, hq⟩ := hcontent (h x' hx')
    rw [hy.eq_bytes hp, hy'.eq_bytes hq]
    apply apart_bytes
    rintro rfl
    rw [same_of_byteContent? hp hq] at hdistinct
    cases hdistinct

theorem Sortable.pairwise_apart {items decoded : List Value} (h : Sortable items)
    (hdistinct : Distinct items) (hvalues : List.Forall₂ SameValue items decoded) :
    decoded.Pairwise Apart := by
  rw [List.pairwise_iff_getElem]
  intro i j hi hj hij
  have hlength := hvalues.length_eq
  have hvalue (k : Nat) (hk : k < items.length) (hk' : k < decoded.length) :
      SameValue items[k] decoded[k] := List.Forall₂.get hvalues hk hk'
  refine h.apart (List.getElem_mem _) (List.getElem_mem _) ?_ (hvalue i (by omega) hi)
    (hvalue j (by omega) hj)
  exact List.pairwise_iff_getElem.1 hdistinct i j (by omega) (by omega) hij

end Members

end Value

namespace Item

open Value

theorem exists_decode_of_exactValue? {x : Value} {q : ℚ} (h : x.exactValue? = some q) :
    ∃ y, decode x = .ok y ∧ y.exactValue? = some q := by
  cases x with
  | decimal d =>
    refine ⟨_, decode_decimal d, ?_⟩
    have hd : d.toRat? = some q := h
    cases hn : d.toInt? with
    | none => exact hd
    | some n =>
      rw [Decimal.toInt?_eq_some_iff.1 hn] at hd
      obtain rfl := Option.some.inj hd
      exact Decimal.toRat?_ofInt n
  | bool b => exact ⟨_, rfl, h⟩
  | int width n => exact ⟨_, rfl, h⟩
  | float width x => exact ⟨_, rfl, h⟩
  | _ => cases h

theorem exists_decode_of_sortable {items : List Value} (h : Sortable items) :
    ∀ x ∈ items, ∃ y, decode x = .ok y ∧ SameValue x y := by
  intro x hx
  cases h with
  | numbers h =>
    obtain ⟨q, hq⟩ := h x hx
    obtain ⟨y, hy, hyq⟩ := exists_decode_of_exactValue? hq
    exact ⟨y, hy, .number hq hyq⟩
  | texts h =>
    obtain ⟨s, rfl⟩ := h x hx
    exact ⟨_, rfl, .text s⟩
  | bytes h =>
    obtain ⟨data, rfl | rfl⟩ := h x hx
    · exact ⟨_, rfl, .bytes rfl⟩
    · exact ⟨_, rfl, .bytes rfl⟩

theorem exists_decoded_of_sortable {items : List Value} (h : Sortable items) :
    ∃ decoded, List.Forall₂ (fun x y => decode x = .ok y) items decoded ∧
      List.Forall₂ SameValue items decoded := by
  have hall := exists_decode_of_sortable h
  clear h
  induction items with
  | nil => exact ⟨[], .nil, .nil⟩
  | cons x items ih =>
    obtain ⟨⟨y, hy, hxy⟩, hrest⟩ := List.forall_mem_cons.1 hall
    obtain ⟨decoded, hdecoded, hvalues⟩ := ih hrest
    exact ⟨y :: decoded, .cons hy hdecoded, .cons hxy hvalues⟩

theorem exists_sorted_of_sortable {items : List Value} (h : Sortable items)
    (hdistinct : Distinct items) :
    ∃ decoded sorted, List.Forall₂ (fun x y => decode x = .ok y) items decoded ∧
      List.Forall₂ SameValue items decoded ∧ decoded.Pairwise Apart ∧
      sort decoded = .ok sorted ∧ sorted.Pairwise Precedes := by
  obtain ⟨decoded, hdecoded, hvalues⟩ := exists_decoded_of_sortable h
  have hapart := h.pairwise_apart hdistinct hvalues
  obtain ⟨sorted, hsorted, hascending⟩ := sort_ascending hapart
  exact ⟨decoded, sorted, hdecoded, hvalues, hapart, hsorted, hascending⟩

/-- A set of finite numbers, of texts or of byte strings becomes an ascending list with one entry
for each member, of the same value. It is the same list for every order of the members, and it
stands where the set was in every item that can be decoded. -/
theorem decode_set_ascending (items : List Value) (hsortable : Sortable items)
    (hdistinct : Distinct items) :
    ∃ sorted : List Value, sorted.Pairwise Precedes ∧
      (∃ decoded, List.Forall₂ SameValue items decoded ∧ sorted.Perm decoded) ∧
      ∀ kind items', IsSetKind kind → items'.Perm items →
        decode (.seq kind items') = .ok (.list sorted) ∧
        ∀ v w path, decode v = .ok w → v.at? path = some (.seq kind items') →
          ∃ places, List.Forall₂ Step.Arrives path places ∧
            w.placeAt? places = some (.list sorted) := by
  obtain ⟨decoded, sorted, hdecoded, hvalues, hapart, hsorted, hascending⟩ :=
    exists_sorted_of_sortable hsortable hdistinct
  refine ⟨sorted, hascending, ⟨decoded, hvalues, sort_perm hsorted⟩, ?_⟩
  intro kind items' hkind hperm
  have hdecode : decode (.seq kind items') = .ok (.list sorted) := by
    obtain ⟨decoded', hdecoded', hperm'⟩ := List.perm_comp_forall₂ hperm hdecoded
    exact (decode_members_eq_ok_iff hkind).2
      ⟨decoded', sorted, hdecoded', sort_eq_of_perm hapart hsorted hperm', rfl⟩
  refine ⟨hdecode, fun v w path hv hplace => ?_⟩
  obtain ⟨places, y, harrives, hy, hw⟩ := decode_at hv hplace
  rw [hdecode] at hy
  obtain rfl := Except.ok.inj hy
  exact ⟨places, harrives, hw⟩

/-- Integers and decimals of several exponents in one set, given in both directions. -/
theorem decode_set_ascending_mixed :
    let items : List Value :=
      [.decimal (.finite false 150 (-2)), .ofInt 2, .decimal (.finite false 10 (-1)),
        .decimal (.finite true 5 (-1)), .decimal (.finite false 3 2)]
    let sorted : List Value := [.decimal (.finite true 5 (-1)), .ofInt 1,
      .decimal (.finite false 150 (-2)), .ofInt 2, .ofInt 300]
    let v : Value := .map .plain [(.text "n", .list [.null, .seq .frozenSet items.reverse])]
    Sortable items ∧ Distinct items ∧ sorted.Pairwise Precedes ∧
      decode (.seq .set items) = .ok (.list sorted) ∧
      ∃ w, decode v = .ok w ∧ w.placeAt? [0, 1] = some (.list sorted) := by
  intro items sorted v
  have hsortable : Sortable items := by
    apply Sortable.numbers
    simp only [items, List.forall_mem_cons]
    exact ⟨⟨_, rfl⟩, ⟨_, rfl⟩, ⟨_, rfl⟩, ⟨_, rfl⟩, ⟨_, rfl⟩, by simp⟩
  have hdistinct : Distinct items := by
    simp only [Distinct, items, same, number?, List.pairwise_cons, List.forall_mem_cons]
    decide
  have hdecode : decode (.seq .set items) = .ok (.list sorted) := by with_unfolding_all rfl
  obtain ⟨ys, hascending, -, hall⟩ := decode_set_ascending items hsortable hdistinct
  obtain ⟨hset, -⟩ := hall .set items (.inl rfl) (.refl _)
  rw [hdecode] at hset
  obtain rfl : sorted = ys := by simpa using hset
  obtain ⟨-, hplaces⟩ := hall .frozenSet items.reverse (.inr rfl) items.reverse_perm
  have hw : decode v = .ok (.map .plain [(.text "n", .list [.null, .list sorted])]) := by
    with_unfolding_all rfl
  obtain ⟨places, harrives, hplace⟩ := hplaces v _ ([0, 1].map .place) hw rfl
  obtain rfl := eq_of_arrives_place harrives
  exact ⟨hsortable, hdistinct, hascending, hdecode, _, hw, hplace⟩

/-- A set in a tuple stays a set. -/
theorem decode_keeps_set_in_tuple :
    let items : List Value := [.ofInt 1]
    let v : Value := .map .plain [(.text "a", .seq .tuple [.seq .set items])]
    Sortable items ∧ Distinct items ∧ decode v = .ok v := by
  intro items v
  have hsortable : Sortable items := by
    apply Sortable.numbers
    intro x hx
    obtain rfl := List.mem_singleton.1 hx
    exact ⟨_, rfl⟩
  exact ⟨hsortable, List.pairwise_singleton _ _, rfl⟩

end Item

end TabularSchema
