import TabularSchema.Proofs.SetSorting
import TabularSchema.Proofs.WireTyping

/-!
# Numbers keep their exact values

A decimal of an item becomes the integer it equals, or stays as it is if it equals none. A number
text on the wire is read without rounding or not at all: what a document holds for it is the number
it denotes, as an integer exactly if it is one. An item in which every number text denotes a finite
number fails only with trapped signals.
-/

namespace TabularSchema

/-- The integer that a decimal equals, or the decimal itself if it equals none. -/
def Decimal.Becomes (d : Decimal) (y : Value) : Prop :=
  (∃ n : Int, d.toRat? = some (n : ℚ) ∧ y = .ofInt n) ∨
    ((∀ n : Int, d.toRat? ≠ some (n : ℚ)) ∧ y = .decimal d)

/-- Exactly the given number, as an integer if it is one and else as a decimal. -/
def Value.Represents (y : Value) (q : ℚ) : Prop :=
  (∃ n : Int, q = n ∧ y = .ofInt n) ∨
    ((∀ n : Int, q ≠ n) ∧ ∃ d, y = .decimal d ∧ d.toRat? = some q)

theorem Decimal.Becomes.represents {d : Decimal} {y : Value} (h : d.Becomes y) {q : ℚ}
    (hq : d.toRat? = some q) : y.Represents q := by
  rcases h with ⟨n, hn, rfl⟩ | ⟨hnone, rfl⟩
  · rw [hq] at hn
    exact .inl ⟨n, Option.some.inj hn, rfl⟩
  · refine .inr ⟨fun n hn => hnone n ?_, d, rfl, hq⟩
    rw [hq, hn]

namespace Item

theorem becomes_of_decode {d : Decimal} {y : Value} (h : decode (.decimal d) = .ok y) :
    d.Becomes y := by
  rw [decode_decimal] at h
  obtain rfl := Except.ok.inj h
  cases hd : d.toInt? with
  | some n => exact .inl ⟨n, Decimal.toInt?_eq_some_iff.1 hd, rfl⟩
  | none => exact .inr ⟨Decimal.toInt?_eq_none_iff.1 hd, rfl⟩

theorem exists_decode_list {vs : List Value} (h : ∀ v ∈ vs, ∃ u, decode v = .ok u) :
    ∃ u, decode (.list vs) = .ok u := by
  obtain ⟨us, hus⟩ := mapM_eq_ok_of_forall h
  exact ⟨.list us, decode_list_eq_ok_iff.2 ⟨us, mapM_eq_ok_iff_forall₂.1 hus, rfl⟩⟩

theorem exists_decode_map {fields : List (Value × Value)}
    (h : ∀ f ∈ fields, ∃ u, decode f.2 = .ok u) : ∃ u, decode (.map .plain fields) = .ok u := by
  have hstep : ∀ f ∈ fields, ∃ g, (decode f.2).map (fun u => (f.1, u)) = .ok g := by
    intro f hf
    obtain ⟨u, hu⟩ := h f hf
    exact ⟨(f.1, u), map_eq_ok_iff.2 ⟨u, hu, rfl⟩⟩
  obtain ⟨gs, hgs⟩ := mapM_eq_ok_of_forall hstep
  exact ⟨.map .plain gs, decode_map_eq_ok_iff.2 ⟨gs, mapM_keyed_eq_ok_iff.1 hgs, rfl⟩⟩

end Item

/-- The step gives a result with the given property, or it fails with trapped signals. -/
def SignalsOr {α : Type} (P : α → Prop) : Except Failure α → Prop
  | .ok a => P a
  | .error f => ∃ signals, signals ≠ [] ∧ f = .trapped signals

namespace SignalsOr

variable {α β : Type} {P P' : α → Prop} {Q : β → Prop}

theorem mono {x : Except Failure α} (hx : SignalsOr P x) (h : ∀ a, P a → P' a) :
    SignalsOr P' x := by
  cases x with
  | ok a => exact h a hx
  | error e => exact hx

theorem bind {x : Except Failure α} {f : α → Except Failure β} (hx : SignalsOr P x)
    (hf : ∀ a, P a → SignalsOr Q (f a)) : SignalsOr Q (x >>= f) := by
  cases x with
  | ok a => exact hf a hx
  | error e => exact hx

theorem map {x : Except Failure α} (hx : SignalsOr P x) {g : α → β} (hg : ∀ a, P a → Q (g a)) :
    SignalsOr Q (x.map g) := by
  cases x with
  | ok a => exact hg a hx
  | error e => exact hx

theorem mapM {f : α → Except Failure β} {xs : List α} (h : ∀ x ∈ xs, SignalsOr Q (f x)) :
    SignalsOr (fun ys => ∀ y ∈ ys, Q y) (xs.mapM f) := by
  induction xs with
  | nil => exact List.forall_mem_nil Q
  | cons x xs ih =>
    obtain ⟨hx, hxs⟩ := List.forall_mem_cons.1 h
    rw [List.mapM_cons]
    exact hx.bind fun y hy => (ih hxs).bind fun ys hys => List.forall_mem_cons.2 ⟨hy, hys⟩

theorem ok_or_trapped {x : Except Failure α} (h : SignalsOr (fun _ => True) x) :
    (∃ a, x = .ok a) ∨ ∃ signals, signals ≠ [] ∧ x = .error (.trapped signals) := by
  cases x with
  | ok a => exact .inl ⟨a, rfl⟩
  | error f =>
    obtain ⟨signals, hne, rfl⟩ := h
    exact .inr ⟨signals, hne, rfl⟩

end SignalsOr

namespace Value

theorem distinct_addItem {item : Value} {items : List Value} (h : Distinct items) :
    Distinct (addItem item items) := by
  rw [addItem]
  split
  · exact h
  · next hnew =>
    have hnone : ∀ x ∈ items, x.same item = false := by
      simpa using hnew
    refine List.pairwise_append.2 ⟨h, List.pairwise_singleton _ _, fun x hx y hy => ?_⟩
    obtain rfl := List.mem_singleton.1 hy
    exact hnone x hx

end Value

namespace Attribute

open Numeral Value

theorem readNumber_of_denotes {s : String} {q : ℚ} (h : Denotes s q) :
    SignalsOr (fun d => d.toRat? = some q) (readNumber s) := by
  obtain ⟨d, hparse, hvalue⟩ := Option.bind_eq_some_iff.1 (denotes_iff.1 h)
  have hread : Decimal.Context.tableNumber.read s = Decimal.Context.tableNumber.fit d := by
    obtain ⟨negative, c, e, rfl, -⟩ := Decimal.exists_finite_of_toRat? hvalue
    rw [Decimal.Context.read, hparse]
  rw [readNumber, hread, Decimal.Context.fit]
  cases Decimal.Context.tableNumber.signals d with
  | nil => exact hvalue
  | cons signal signals => exact ⟨signal :: signals, by simp, rfl⟩

theorem setOf_signalsOr {readItem : Value → Except Failure Value} {P : Value → Prop}
    (hhash : ∀ x, P x → x.checkHashable = .ok ()) {es : List Value}
    (h : ∀ e ∈ es, SignalsOr P (readItem e)) :
    SignalsOr (fun v => ∃ items, v = .seq .set items ∧ Distinct items ∧ ∀ x ∈ items, P x)
      (setOf readItem (.list es)) := by
  -- The items so far are distinct and have the property, and so they do with one more.
  have hfold (acc : List Value) (hdistinct : Distinct acc) (hacc : ∀ x ∈ acc, P x) :
      SignalsOr (fun items => Distinct items ∧ ∀ x ∈ items, P x)
        (es.foldlM (fun acc e => do
          let item ← readItem e
          item.checkHashable
          return Value.addItem item acc) acc) := by
    induction es generalizing acc with
    | nil => exact ⟨hdistinct, hacc⟩
    | cons e es ih =>
      obtain ⟨he, hes⟩ := List.forall_mem_cons.1 h
      rw [List.foldlM_cons]
      have hstep : SignalsOr (fun items => Distinct items ∧ ∀ x ∈ items, P x)
          (do
            let item ← readItem e
            item.checkHashable
            return Value.addItem item acc) := by
        refine he.bind fun item hitem => ?_
        rw [hhash item hitem]
        refine ⟨distinct_addItem hdistinct, fun x hx => ?_⟩
        rcases mem_addItem hx with hx | rfl
        · exact hacc x hx
        · exact hitem
      exact hstep.bind fun acc' hacc' => ih hes acc' hacc'.1 hacc'.2
  exact (hfold [] List.Pairwise.nil (by simp)).bind fun items hitems => ⟨items, rfl, hitems⟩

end Attribute

namespace Wire

open Attribute Item Numeral Value

/-- The number texts of an attribute that holds no other attributes. -/
def numberTexts : Wire → List String
  | .number s => [s]
  | .numberSet members => members
  | _ => []

/-- Every number text inside the attribute denotes a finite number. -/
inductive FiniteNumbers : Wire → Prop
  | leaf {w : Wire} : w.IsLeaf → (∀ s ∈ w.numberTexts, ∃ q, Denotes s q) → FiniteNumbers w
  | list {members : List Wire} : (∀ w ∈ members, FiniteNumbers w) → FiniteNumbers (.list members)
  | map {entries : List (String × Wire)} :
    (∀ e ∈ entries, FiniteNumbers e.2) → FiniteNumbers (.map entries)

def Decodable (w : Wire) : Prop :=
  SignalsOr (fun v => ∃ u, decode v = .ok u) (Attribute.read w.toValue)

theorem decodable_set {readItem : Value → Except Failure Value} {P : Value → Prop}
    (hhash : ∀ x, P x → x.checkHashable = .ok ())
    (hsortable : ∀ items : List Value, (∀ x ∈ items, P x) → Sortable items) {es : List Value}
    (h : ∀ e ∈ es, SignalsOr P (readItem e)) :
    SignalsOr (fun v => ∃ u, decode v = .ok u) (setOf readItem (.list es)) := by
  apply (setOf_signalsOr hhash h).mono
  rintro v ⟨items, rfl, hdistinct, hitems⟩
  obtain ⟨decoded, sorted, hdecoded, -, -, hsorted, -⟩ :=
    exists_sorted_of_sortable (hsortable items hitems) hdistinct
  exact ⟨.list sorted,
    (decode_members_eq_ok_iff (.inl rfl)).2 ⟨decoded, sorted, hdecoded, hsorted, rfl⟩⟩

def IsFiniteDecimal (x : Value) : Prop := ∃ d q, x = .decimal d ∧ d.toRat? = some q

theorem number_signalsOr {s : String} (h : ∃ q, Denotes s q) :
    SignalsOr IsFiniteDecimal ((Attribute.number (.text s)).map .decimal) := by
  obtain ⟨q, hq⟩ := h
  exact (readNumber_of_denotes hq).map fun d hd => ⟨d, q, rfl, hd⟩

theorem decodable_of_leaf {w : Wire} (hw : w.IsLeaf)
    (h : ∀ s ∈ w.numberTexts, ∃ q, Denotes s q) : w.Decodable := by
  unfold Decodable
  cases w with
  | null =>
    rw [toValue, read_tagged (by decide)]
    exact ⟨.null, rfl⟩
  | bool b =>
    rw [toValue, read_tagged (by decide)]
    exact ⟨.bool b, rfl⟩
  | text s =>
    rw [toValue, read_tagged (by decide)]
    exact ⟨.text s, rfl⟩
  | bytes data =>
    rw [toValue, read_tagged (by decide)]
    exact ⟨.bytes .fixed data, rfl⟩
  | number s =>
    rw [toValue, read_tagged (by decide)]
    apply (number_signalsOr (h s (List.mem_singleton_self s))).mono
    rintro _ ⟨d, q, rfl, -⟩
    exact ⟨_, decode_decimal d⟩
  | textSet members =>
    rw [toValue, read_tagged (by decide)]
    apply decodable_set (P := fun x => ∃ s, x = .text s)
    · rintro _ ⟨s, rfl⟩
      rfl
    · exact fun items => .texts
    · intro e he
      obtain ⟨s, -, rfl⟩ := List.mem_map.1 he
      exact ⟨s, rfl⟩
  | numberSet members =>
    rw [toValue, read_tagged (by decide)]
    apply decodable_set (P := IsFiniteDecimal)
    · rintro _ ⟨d, q, rfl, hd⟩
      obtain ⟨negative, c, e, rfl, -⟩ := Decimal.exists_finite_of_toRat? hd
      rfl
    · intro items hitems
      apply Sortable.numbers
      intro x hx
      obtain ⟨d, q, rfl, hd⟩ := hitems x hx
      exact ⟨q, hd⟩
    · intro e he
      obtain ⟨s, hs, rfl⟩ := List.mem_map.1 he
      exact number_signalsOr (h s hs)
  | bytesSet members =>
    rw [toValue, read_tagged (by decide)]
    apply decodable_set (P := fun x => ∃ data, x = .wrapped .fixed data)
    · rintro _ ⟨data, rfl⟩
      rfl
    · intro items hitems
      apply Sortable.bytes
      intro x hx
      obtain ⟨data, rfl⟩ := hitems x hx
      exact ⟨data, .inr rfl⟩
    · intro e he
      obtain ⟨data, -, rfl⟩ := List.mem_map.1 he
      exact ⟨data, rfl⟩
  | list members => exact hw.elim
  | map entries => exact hw.elim

theorem readEach_eq_mapM (members : List Wire) :
    readEach (toValues members) = members.mapM fun w => Attribute.read w.toValue := by
  induction members with
  | nil => rfl
  | cons w members ih => rw [toValues, readEach, List.mapM_cons, ih]

theorem readEntries_eq_mapM (entries : List (String × Wire)) :
    readEntries (toEntries entries) =
      entries.mapM fun e => (Attribute.read e.2.toValue).map fun v => (Value.text e.1, v) := by
  induction entries with
  | nil => rfl
  | cons e entries ih =>
    rw [toEntries, readEntries, List.mapM_cons, ih]
    cases Attribute.read e.2.toValue <;> rfl

theorem decodable_of_finiteNumbers {w : Wire} (h : w.FiniteNumbers) : w.Decodable := by
  induction h with
  | leaf hleaf htexts => exact decodable_of_leaf hleaf htexts
  | list _ ih =>
    rw [Decodable, toValue, read_list, readEach_eq_mapM]
    exact (SignalsOr.mapM ih).map fun vs hvs => exists_decode_list hvs
  | @map entries _ ih =>
    rw [Decodable, toValue, read_map, readEntries_eq_mapM]
    have hentries : ∀ e ∈ entries, SignalsOr (fun f : Value × Value => ∃ u, decode f.2 = .ok u)
        ((Attribute.read e.2.toValue).map fun v => (Value.text e.1, v)) :=
      fun e he => (ih e he).map fun v hv => hv
    exact (SignalsOr.mapM hentries).map fun fields hfields => exists_decode_map hfields

section Places

def step? (i : Nat) : Wire → Option Wire
  | .list members => members[i]?
  | .map entries => entries[i]?.map Prod.snd
  | _ => none

/-- The attribute at a place that is reached through lists and maps. -/
def placeAt? : List Nat → Wire → Option Wire
  | [], w => some w
  | i :: places, w => (w.step? i).bind (placeAt? places)

theorem read_step {w x : Wire} {v : Value} {i : Nat} (h : Attribute.read w.toValue = .ok v)
    (hx : w.step? i = some x) :
    ∃ y, Attribute.read x.toValue = .ok y ∧ v.step? (.place i) = some y := by
  cases w with
  | list members =>
    rw [toValue, read_list, readEach_eq_mapM] at h
    obtain ⟨vs, hvs, rfl⟩ := map_eq_ok_iff.1 h
    obtain ⟨y, hy, hread⟩ := exists_getElem?_of_forall₂ (mapM_eq_ok_iff_forall₂.1 hvs) hx
    exact ⟨y, hread, hy⟩
  | map entries =>
    rw [toValue, read_map, readEntries_eq_mapM] at h
    obtain ⟨fields, hfields, rfl⟩ := map_eq_ok_iff.1 h
    obtain ⟨e, he, rfl⟩ := Option.map_eq_some_iff.1 hx
    obtain ⟨f, hf, -, hread⟩ := exists_getElem?_of_forall₂ (mapM_keyed_eq_ok_iff.1 hfields) he
    refine ⟨f.2, hread, ?_⟩
    rw [Value.step?, hf]
    rfl
  | _ => cases hx

/-- What an attribute is read as stands where the attribute does. -/
theorem read_placeAt {places : List Nat} {w x : Wire} {v : Value}
    (h : Attribute.read w.toValue = .ok v) (hx : w.placeAt? places = some x) :
    ∃ y, Attribute.read x.toValue = .ok y ∧ v.placeAt? places = some y := by
  induction places generalizing w v with
  | nil =>
    obtain rfl := Option.some.inj hx
    exact ⟨v, h, rfl⟩
  | cons i places ih =>
    obtain ⟨u, hu, hx⟩ := Option.bind_eq_some_iff.1 hx
    obtain ⟨y, hy, hstep⟩ := read_step h hu
    obtain ⟨z, hz, hplace⟩ := ih hy hx
    refine ⟨z, hz, ?_⟩
    rw [placeAt?_cons, hstep]
    exact hplace

end Places

end Wire

namespace Item

open Value Numeral

theorem ofWire_eq (entries : List (String × Wire)) :
    ofWire (.map .plain (Wire.toEntries entries)) =
      Attribute.read (Wire.map entries).toValue >>= decode := by
  have hread (es : List (Value × Value)) :
      ofWire (.map .plain es) =
        Attribute.readEntries es >>= fun attributes => decode (.map .plain attributes) := rfl
  rw [hread, Wire.toValue, Wire.read_map]
  cases Attribute.readEntries (Wire.toEntries entries) <;> rfl

/-- Each decimal of an item, wherever it stands, becomes the integer it equals or stays as it is. A
number text denoting a finite number is turned into exactly that number wherever it stands in an
item on the wire, as an integer if it is one; and where every number text denotes a finite number,
the item is decoded or refused with the signals of a trapped number. -/
theorem decode_numbers_exact (v w : Value) (entries : List (String × Wire)) :
    (decode v = .ok w → ∀ path d, v.at? path = some (.decimal d) →
      ∃ places y, List.Forall₂ Step.Arrives path places ∧ w.placeAt? places = some y ∧
        d.Becomes y) ∧
    (∀ document, ofWire (.map .plain (Wire.toEntries entries)) = .ok document →
      ∀ places s q, (Wire.map entries).placeAt? places = some (.number s) → Denotes s q →
        ∃ y, document.placeAt? places = some y ∧ y.Represents q) ∧
    ((Wire.map entries).FiniteNumbers →
      (∃ document, ofWire (.map .plain (Wire.toEntries entries)) = .ok document) ∨
      ∃ signals, signals ≠ [] ∧
        ofWire (.map .plain (Wire.toEntries entries)) = .error (.trapped signals)) := by
  refine ⟨?_, ?_, ?_⟩
  · intro hdecode path d hd
    obtain ⟨places, y, harrives, hy, hplace⟩ := decode_at hdecode hd
    exact ⟨places, y, harrives, hplace, becomes_of_decode hy⟩
  · intro document hdocument places s q hs hq
    rw [ofWire_eq] at hdocument
    obtain ⟨v, hv, hdecode⟩ := bind_eq_ok_iff.1 hdocument
    obtain ⟨x, hx, hplace⟩ := Wire.read_placeAt hv hs
    obtain ⟨y, hy, hw⟩ := decode_placeAt hdecode hplace
    rw [Wire.toValue, Wire.read_tagged (by decide)] at hx
    obtain ⟨d, hd, rfl⟩ := map_eq_ok_iff.1 hx
    have hvalue : d.toRat? = some q := by
      have hread := Attribute.readNumber_of_denotes hq
      rw [show Attribute.readNumber s = .ok d from hd] at hread
      exact hread
    exact ⟨y, hw, (becomes_of_decode hy).represents hvalue⟩
  · intro hfinite
    rw [ofWire_eq]
    apply SignalsOr.ok_or_trapped
    refine (Wire.decodable_of_finiteNumbers hfinite).bind fun v hv => ?_
    obtain ⟨u, hu⟩ := hv
    rw [hu]
    trivial

/-- A whole decimal in a set of a list, number texts next to each other and in a list, and a text
with more digits than a stored number has. -/
theorem decode_numbers_exact_nested :
    let d : Decimal := .finite false 30 (-1)
    let v : Value := .map .plain
      [(.text "n", .list [.decimal (.finite true 150 (-2)), .seq .frozenSet [.decimal d]])]
    let entries : List (String × Wire) :=
      [("a", .number "0.1"), ("b", .list [.numberSet ["2", "1E-1"], .number "-1.50e+3"])]
    let long : List (String × Wire) := [("c", .number "100000000000000000000000000000000000001")]
    (∃ w places y, decode v = .ok w ∧ w.placeAt? places = some y ∧ d.Becomes y) ∧
    (∃ document y, ofWire (.map .plain (Wire.toEntries entries)) = .ok document ∧
      document.placeAt? [1, 1] = some y ∧ y.Represents (-1500)) ∧
    (Wire.map long).FiniteNumbers ∧
    ∃ signals, signals ≠ [] ∧
      ofWire (.map .plain (Wire.toEntries long)) = .error (.trapped signals) := by
  intro d v entries long
  refine ⟨?_, ?_, ?_⟩
  · have hw : decode v = .ok (.map .plain
        [(.text "n", .list [.decimal (.finite true 150 (-2)), .list [.ofInt 3]])]) := by
      with_unfolding_all rfl
    obtain ⟨hdecimals, -, -⟩ := decode_numbers_exact v _ entries
    obtain ⟨places, y, -, hplace, hy⟩ := hdecimals hw [.place 0, .place 1, .member 0] d rfl
    exact ⟨_, places, y, hw, hplace, hy⟩
  · have hok : (ofWire (.map .plain (Wire.toEntries entries))).isOk = true := by decide +kernel
    obtain ⟨document, hdocument⟩ := exists_of_isOk hok
    have hdenotes : Denotes "-1.50e+3" ((-1500 : Int) : ℚ) :=
      denotes_intCast_iff.2 (by decide +kernel)
    obtain ⟨-, hexact, -⟩ := decode_numbers_exact v v entries
    obtain ⟨y, hplace, hy⟩ := hexact document hdocument [1, 1] _ _ rfl hdenotes
    exact ⟨document, y, hdocument, hplace, by simpa using hy⟩
  · have hdenotes : Denotes "100000000000000000000000000000000000001"
        ((10 ^ 38 + 1 : Int) : ℚ) := denotes_intCast_iff.2 (by decide +kernel)
    have hfinite : (Wire.map long).FiniteNumbers := by
      refine .map fun e he => ?_
      obtain rfl := List.mem_singleton.1 he
      refine .leaf trivial fun s hs => ?_
      obtain rfl := List.mem_singleton.1 hs
      exact ⟨_, hdenotes⟩
    refine ⟨hfinite, ?_⟩
    obtain ⟨-, -, houtcome⟩ := decode_numbers_exact v v long
    rcases houtcome hfinite with ⟨document, hdocument⟩ | hsignals
    · have hrefused : (ofWire (.map .plain (Wire.toEntries long))).isOk = false := by
        decide +kernel
      rw [hdocument] at hrefused
      cases hrefused
    · exact hsignals

/-- A whole decimal that is a key stays a decimal. -/
theorem decode_keeps_decimal_key :
    let d : Decimal := .finite false 1 0
    let v : Value := .map .plain [(.decimal d, .text "x")]
    d.toRat? = some ((1 : Int) : ℚ) ∧ decode v = .ok v :=
  ⟨Decimal.toInt?_eq_some_iff.1 rfl, rfl⟩

end Item

end TabularSchema
