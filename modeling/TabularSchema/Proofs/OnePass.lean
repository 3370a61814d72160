import Mathlib.Data.List.Dedup
import TabularSchema.Proofs.LeastBound

/-!
# The type of many values in one pass

`Value.typeOfAll` gives the type of a list of values without a join: it looks at all values at once,
gathers what the mappings hold under each name and what the sequences hold as elements, and goes on
with what it gathered. The running join of the types of the values, which never sees two of them at
once, gives the same type. What was observed at a path of the result can therefore be read off the
values there.
-/

namespace TabularSchema

namespace Atom

instance (a b : Atom) : Decidable (a.WidensTo b) := decidable_of_iff _ widensTo_iff.symm

/-- The least of the standard atoms that all given atoms widen to. -/
def leastCommon? (as : List Atom) : Option Atom :=
  standard.find? fun c => decide
    ((∀ a ∈ as, a.WidensTo c) ∧ ∀ d ∈ standard, (∀ a ∈ as, a.WidensTo d) → c.WidensTo d)

theorem mem_standard_of_widensTo {a b : Atom} (ha : a ∈ standard) (h : a.WidensTo b) :
    b ∈ standard := by
  have hbounds : ∀ a ∈ standard, ∀ b ∈ a.bounds, b ∈ standard := by decide
  rcases widensTo_iff.1 h with rfl | h
  · exact ha
  · exact hbounds a ha b h

theorem exists_least_of_common {as : List Atom} (hne : as ≠ []) {d : Atom}
    (hd : ∀ a ∈ as, a.WidensTo d) :
    ∃ c : Atom, (∀ a ∈ as, a.WidensTo c) ∧ ∀ d', (∀ a ∈ as, a.WidensTo d') → c.WidensTo d' := by
  induction as with
  | nil => exact absurd rfl hne
  | cons a as ih =>
    obtain ⟨had, hasd⟩ := List.forall_mem_cons.1 hd
    by_cases has : as = []
    · subst has
      exact ⟨a, by simp [WidensTo.refl], by simp⟩
    · obtain ⟨c, hc, hleast⟩ := ih has hasd
      by_cases hac : a = c
      · subst hac
        refine ⟨a, List.forall_mem_cons.2 ⟨WidensTo.refl a, hc⟩, fun d' hd' => ?_⟩
        exact hd' a List.mem_cons_self
      · obtain ⟨e, he, _⟩ := commonBound?_of_common hac had (hleast d hasd)
        obtain ⟨hea, hec⟩ := mem_bounds_of_commonBound? he
        have hce := widensTo_of_mem_bounds hec
        refine ⟨e, List.forall_mem_cons.2 ⟨widensTo_of_mem_bounds hea,
          fun b hb => (hc b hb).trans hce⟩, fun d' hd' => ?_⟩
        obtain ⟨had', hasd'⟩ := List.forall_mem_cons.1 hd'
        obtain ⟨e', he', hed'⟩ := commonBound?_of_common hac had' (hleast d' hasd')
        obtain rfl := Option.some.inj (he.symm.trans he')
        exact hed'

theorem leastCommon?_spec {as : List Atom} (hne : as ≠ []) (has : ∀ a ∈ as, a ∈ standard)
    {d : Atom} (hd : ∀ a ∈ as, a.WidensTo d) :
    ∃ c, leastCommon? as = some c ∧ c.WidensTo d := by
  obtain ⟨c, hc, hleast⟩ := exists_least_of_common hne hd
  obtain ⟨a, ha⟩ := List.exists_mem_of_ne_nil as hne
  have hmem : ∀ d', (∀ a ∈ as, a.WidensTo d') → d' ∈ standard :=
    fun d' hd' => mem_standard_of_widensTo (has a ha) (hd' a ha)
  cases hfind : leastCommon? as with
  | none =>
    have hnot := List.find?_eq_none.1 hfind c (hmem c hc)
    exact absurd (decide_eq_true ⟨hc, fun d' _ => hleast d'⟩) hnot
  | some c' =>
    have hc' := of_decide_eq_true (List.find?_some (a := c') hfind)
    exact ⟨c', rfl, hc'.2 d (hmem d hd) hd⟩

theorem widensTo_of_leastCommon? {as : List Atom} {c : Atom} (h : leastCommon? as = some c) :
    ∀ a ∈ as, a.WidensTo c := (of_decide_eq_true (List.find?_some (a := c) h)).1

end Atom

theorem DataType.leastCommon?_widensTo_iff {as : List Atom} (hne : as ≠ [])
    (has : ∀ a ∈ as, a ∈ Atom.standard ∧ a ≠ .null) {c : DataType} :
    (((Atom.leastCommon? as).map .atom).getD string).WidensTo c ↔
      ∀ a ∈ as, (DataType.atom a).WidensTo c := by
  constructor
  · intro h a ha
    cases hleast : Atom.leastCommon? as with
    | none =>
      rw [hleast] at h
      rw [eq_string_of_string_widensTo h]
      exact WidensTo.string _
    | some b =>
      rw [hleast] at h
      have hab := Atom.widensTo_of_leastCommon? hleast a ha
      exact (WidensTo.atom hab).trans h
  · intro h
    by_cases hc : c = string
    · rw [hc]
      exact WidensTo.string _
    · have hatom : ∀ a ∈ as, ∃ d, c = .atom d ∧ a.WidensTo d := by
        intro a ha
        rcases atom_widensTo_iff.1 (h a ha) with hnull | hstring | hd
        · exact absurd hnull (has a ha).2
        · exact absurd hstring hc
        · exact hd
      obtain ⟨a, ha⟩ := List.exists_mem_of_ne_nil as hne
      obtain ⟨d, rfl, _⟩ := hatom a ha
      have hd : ∀ a ∈ as, a.WidensTo d := by
        intro a ha
        obtain ⟨d', hd', had'⟩ := hatom a ha
        rwa [DataType.atom.inj hd']
      obtain ⟨b, hb, hbd⟩ := Atom.leastCommon?_spec hne (fun a ha => (has a ha).1) hd
      rw [hb]
      exact WidensTo.atom hbd

/-- One step into a type or a value: to a field, or to the elements. -/
inductive PathStep where
  | field (name : String)
  | element
deriving DecidableEq, Repr

namespace Value

/-- What a value holds one step below it. -/
def under : PathStep → Value → List Value
  | .field name, .map _ entries =>
    (entries.filter fun e => e.1.plainText = name).map Prod.snd
  | .element, .seq _ items => items
  | _, _ => []

def allUnder (s : PathStep) (vs : List Value) : List Value := vs.flatMap (under s)

def allNames (vs : List Value) : List String :=
  ((vs.flatMap fun v => v.entries?.getD []).map fun e => e.1.plainText).dedup

theorem sizeOf_append_add_one (xs ys : List Value) :
    sizeOf (xs ++ ys) + 1 = sizeOf xs + sizeOf ys := by
  induction xs with
  | nil => simp; omega
  | cons x xs ih => simp only [List.cons_append, List.cons.sizeOf_spec]; omega

theorem sizeOf_values_le (p : Value × Value → Bool) (entries : List (Value × Value)) :
    sizeOf ((entries.filter p).map Prod.snd) ≤ sizeOf entries := by
  induction entries with
  | nil => simp
  | cons e entries ih =>
    obtain ⟨k, v⟩ := e
    rw [List.filter_cons]
    split
    · simp only [List.map_cons, List.cons.sizeOf_spec, Prod.mk.sizeOf_spec]
      omega
    · simp only [List.cons.sizeOf_spec]
      omega

theorem sizeOf_pos (v : Value) : 0 < sizeOf v := by
  cases v <;> simp

theorem sizeOf_under_le (s : PathStep) (v : Value) : sizeOf (under s v) ≤ sizeOf v := by
  have hpos := sizeOf_pos v
  fun_cases under s v with
  | case1 name kind entries =>
    have h := sizeOf_values_le (fun e => e.1.plainText = name) entries
    simp only [map.sizeOf_spec]
    omega
  | case2 kind items =>
    simp only [seq.sizeOf_spec]
    omega
  | case3 =>
    rw [List.nil.sizeOf_spec]
    omega

theorem sizeOf_allUnder_lt (s : PathStep) {vs : List Value} (h : vs ≠ []) :
    sizeOf (allUnder s vs) < sizeOf vs := by
  have hle (vs : List Value) : sizeOf (allUnder s vs) + vs.length ≤ sizeOf vs := by
    induction vs with
    | nil => simp [allUnder]
    | cons v vs ih =>
      have hv := sizeOf_under_le s v
      have happend := sizeOf_append_add_one (under s v) (allUnder s vs)
      have hcons : allUnder s (v :: vs) = under s v ++ allUnder s vs := List.flatMap_cons
      rw [hcons, List.length_cons, List.cons.sizeOf_spec]
      omega
  have hlength := List.length_pos_iff.2 h
  have := hle vs
  omega

/-- The three shapes of values other than null. -/
inductive Shape where
  | mapping
  | sequence
  | scalar
deriving DecidableEq, Repr

def shape : Value → Shape
  | .map _ _ => .mapping
  | .seq _ _ => .sequence
  | _ => .scalar

def present (vs : List Value) : List Value := vs.filter fun v => !v.isNull

def scalarAtom? (v : Value) : Option Atom :=
  match v.scalarType with
  | .atom a => some a
  | _ => none

theorem ne_nil_of_present {vs : List Value} (h : ¬ (present vs).isEmpty = true) : vs ≠ [] := by
  rintro rfl
  exact h rfl

/-- The type that describes all of the values: null if there are only nulls, and a string if the
others are of different shapes. -/
def typeOfAll (vs : List Value) : DataType :=
  if (present vs).isEmpty then .null
  else if (present vs).all (·.shape = .mapping) then
    .struct (Field.sort ((allNames vs).map fun name =>
      (name, typeOfAll (allUnder (.field name) vs))))
  else if (present vs).all (·.shape = .sequence) then
    .array (typeOfAll (allUnder .element vs)) ((allUnder .element vs).any isNull)
  else if (present vs).all (·.shape = .scalar) then
    ((Atom.leastCommon? ((present vs).filterMap scalarAtom?)).map .atom).getD .string
  else .string
termination_by sizeOf vs
decreasing_by
  · exact sizeOf_allUnder_lt _ (ne_nil_of_present ‹_›)
  · exact sizeOf_allUnder_lt _ (ne_nil_of_present ‹_›)

theorem mem_present {v : Value} {vs : List Value} : v ∈ present vs ↔ v ∈ vs ∧ v ≠ .null := by
  rw [present, List.mem_filter]
  refine and_congr_right fun _ => ?_
  cases v <;> simp [isNull]

theorem forall_present_iff {vs : List Value} {c : DataType} :
    (∀ v ∈ vs, v.typeOf.WidensTo c) ↔ ∀ v ∈ present vs, v.typeOf.WidensTo c := by
  constructor
  · intro h v hv
    exact h v (mem_present.1 hv).1
  · intro h v hv
    by_cases hnull : v = .null
    · subst hnull
      exact DataType.WidensTo.null c
    · exact h v (mem_present.2 ⟨hv, hnull⟩)

theorem mem_allUnder_element {w : Value} {vs : List Value} :
    w ∈ allUnder .element vs ↔ ∃ kind items, .seq kind items ∈ vs ∧ w ∈ items := by
  rw [allUnder, List.mem_flatMap]
  constructor
  · rintro ⟨v, hv, hw⟩
    cases v with
    | seq kind items => exact ⟨kind, items, hv, hw⟩
    | _ => cases hw
  · rintro ⟨kind, items, hv, hw⟩
    exact ⟨_, hv, hw⟩

theorem mem_allUnder_field {w : Value} {name : String} {vs : List Value} :
    w ∈ allUnder (.field name) vs ↔
      ∃ kind entries, .map kind entries ∈ vs ∧ ∃ e ∈ entries, e.1.plainText = name ∧ e.2 = w := by
  rw [allUnder, List.mem_flatMap]
  constructor
  · rintro ⟨v, hv, hw⟩
    cases v with
    | map kind entries =>
      obtain ⟨e, he, rfl⟩ := List.mem_map.1 hw
      obtain ⟨he, hname⟩ := List.mem_filter.1 he
      exact ⟨kind, entries, hv, e, he, of_decide_eq_true hname, rfl⟩
    | _ => cases hw
  · rintro ⟨kind, entries, hv, e, he, hname, rfl⟩
    refine ⟨_, hv, List.mem_map.2 ⟨e, ?_, rfl⟩⟩
    exact List.mem_filter.2 ⟨he, decide_eq_true hname⟩

theorem mem_allNames {name : String} {vs : List Value} :
    name ∈ allNames vs ↔
      ∃ kind entries, .map kind entries ∈ vs ∧ ∃ e ∈ entries, e.1.plainText = name := by
  rw [allNames, List.mem_dedup, List.mem_map]
  constructor
  · rintro ⟨e, he, hname⟩
    obtain ⟨v, hv, he⟩ := List.mem_flatMap.1 he
    cases v with
    | map kind entries => exact ⟨kind, entries, hv, e, he, hname⟩
    | _ => cases he
  · rintro ⟨kind, entries, hv, e, he, hname⟩
    exact ⟨e, List.mem_flatMap.2 ⟨_, hv, he⟩, hname⟩

theorem eq_map_of_shape {v : Value} (h : v.shape = .mapping) :
    ∃ kind entries, v = .map kind entries := by
  cases v with
  | map kind entries => exact ⟨kind, entries, rfl⟩
  | _ => cases h

theorem eq_seq_of_shape {v : Value} (h : v.shape = .sequence) :
    ∃ kind items, v = .seq kind items := by
  cases v with
  | seq kind items => exact ⟨kind, items, rfl⟩
  | _ => cases h

theorem isScalar_of_shape {v : Value} (h : v.shape = .scalar) : v.IsScalar := by
  cases v with
  | seq kind items => cases h
  | map kind entries => cases h
  | _ => trivial

theorem exists_standard_scalarType (v : Value) :
    ∃ a ∈ Atom.standard, v.scalarType = .atom a := by
  fun_cases scalarType v
  case case3 n =>
    unfold DataType.ofIntRange
    split_ifs <;> exact ⟨_, by decide, rfl⟩
  all_goals exact ⟨_, by decide, rfl⟩

theorem exists_atom_typeOf {v : Value} (h : v.shape = .scalar) :
    ∃ a ∈ Atom.standard, v.scalarAtom? = some a ∧ v.typeOf = .atom a := by
  obtain ⟨a, hstandard, ha⟩ := exists_standard_scalarType v
  refine ⟨a, hstandard, ?_, ?_⟩
  · rw [scalarAtom?, ha]
  · rw [typeOf_of_isScalar (isScalar_of_shape h), ha]

/-- A type above that of a value has the shape of the value, unless it is a string. -/
theorem shape_of_widensTo {v : Value} (hv : v ≠ .null) {c : DataType}
    (h : v.typeOf.WidensTo c) :
    c = .string ∨ (v.shape = .mapping ∧ ∃ fs, c = .struct fs) ∨
      (v.shape = .sequence ∧ ∃ e n, c = .array e n) ∨ (v.shape = .scalar ∧ ∃ a, c = .atom a) := by
  cases hs : v.shape with
  | mapping =>
    obtain ⟨kind, entries, rfl⟩ := eq_map_of_shape hs
    rcases DataType.struct_widensTo_iff.1 h with rfl | ⟨fs, rfl, _⟩
    · exact Or.inl rfl
    · exact Or.inr (Or.inl ⟨rfl, fs, rfl⟩)
  | sequence =>
    obtain ⟨kind, items, rfl⟩ := eq_seq_of_shape hs
    rcases DataType.array_widensTo_iff.1 h with rfl | ⟨e, n, rfl, _⟩
    · exact Or.inl rfl
    · exact Or.inr (Or.inr (Or.inl ⟨rfl, e, n, rfl⟩))
  | scalar =>
    obtain ⟨a, _, _, ha⟩ := exists_atom_typeOf hs
    rw [ha] at h
    rcases DataType.atom_widensTo_iff.1 h with rfl | rfl | ⟨b, rfl, _⟩
    · exact absurd (typeOf_eq_null_iff.1 ha) hv
    · exact Or.inl rfl
    · exact Or.inr (Or.inr (Or.inr ⟨rfl, b, rfl⟩))

section Shapes

variable {vs : List Value} {c : DataType} (hc : c.WellFormed) (hne : present vs ≠ [])
include hc hne

theorem struct_widensTo_iff_of_mappings (hall : ∀ v ∈ present vs, v.shape = .mapping)
    {g : String → DataType}
    (hg : ∀ name (d : DataType), d.WellFormed →
      ((g name).WidensTo d ↔ ∀ w ∈ allUnder (.field name) vs, w.typeOf.WidensTo d)) :
    (DataType.struct (Field.sort ((allNames vs).map fun name => (name, g name)))).WidensTo c ↔
      ∀ v ∈ vs, v.typeOf.WidensTo c := by
  rw [forall_present_iff, DataType.struct_widensTo_iff]
  constructor
  · rintro (rfl | ⟨gs, rfl, hgs⟩) v hv
    · exact DataType.WidensTo.string _
    · obtain ⟨kind, entries, rfl⟩ := eq_map_of_shape (hall v hv)
      have hmem := (mem_present.1 hv).1
      rw [DataType.fieldsWiden_sort_iff, DataType.fieldsWiden_iff, List.forall_mem_map] at hgs
      refine (typeOf_map_widensTo_iff hc).2 (Or.inr ⟨gs, rfl, fun e he => ?_⟩)
      obtain ⟨u, hu, hgu⟩ := hgs _ (mem_allNames.2 ⟨kind, entries, hmem, e, he, rfl⟩)
      have hunder : e.2 ∈ allUnder (.field e.1.plainText) vs :=
        mem_allUnder_field.2 ⟨kind, entries, hmem, e, he, rfl, rfl⟩
      exact ⟨u, hu, (hg _ u (hc.of_mem hu)).1 hgu e.2 hunder⟩
  · intro h
    obtain ⟨v, hv⟩ := List.exists_mem_of_ne_nil _ hne
    rcases shape_of_widensTo (mem_present.1 hv).2 (h v hv) with
      rfl | ⟨_, gs, rfl⟩ | ⟨hs, _⟩ | ⟨hs, _⟩
    · exact Or.inl rfl
    · have hentry : ∀ kind entries, .map kind entries ∈ vs → ∀ e ∈ entries,
          ∃ u, (e.1.plainText, u) ∈ gs ∧ e.2.typeOf.WidensTo u := by
        intro kind entries hmem
        rcases (typeOf_map_widensTo_iff hc).1 (h _ (mem_present.2 ⟨hmem, by simp⟩)) with
          hstring | ⟨gs', hgs, hentries⟩
        · cases hstring
        · obtain rfl := DataType.struct.inj hgs
          exact hentries
      refine Or.inr ⟨gs, rfl, ?_⟩
      rw [DataType.fieldsWiden_sort_iff, DataType.fieldsWiden_iff, List.forall_mem_map]
      intro name hname
      obtain ⟨kind, entries, hmem, e, he, rfl⟩ := mem_allNames.1 hname
      obtain ⟨u, hu, _⟩ := hentry kind entries hmem e he
      refine ⟨u, hu, (hg _ u (hc.of_mem hu)).2 fun w hw => ?_⟩
      -- A name has one field only, so all entries of this name are below the same type.
      obtain ⟨kind', entries', hmem', e', he', hsame, rfl⟩ := mem_allUnder_field.1 hw
      obtain ⟨u', hu', hw⟩ := hentry kind' entries' hmem' e' he'
      rw [hsame] at hu'
      have hget := (FieldTypes.get?_eq_some_iff hc.distinct).2 hu
      have hget' := (FieldTypes.get?_eq_some_iff hc.distinct).2 hu'
      obtain rfl := Option.some.inj (hget.symm.trans hget')
      exact hw
    · rw [hall v hv] at hs
      cases hs
    · rw [hall v hv] at hs
      cases hs

theorem array_widensTo_iff_of_sequences (hall : ∀ v ∈ present vs, v.shape = .sequence)
    {e : DataType}
    (he : ∀ d : DataType, d.WellFormed →
      (e.WidensTo d ↔ ∀ w ∈ allUnder .element vs, w.typeOf.WidensTo d)) :
    (DataType.array e ((allUnder .element vs).any isNull)).WidensTo c ↔
      ∀ v ∈ vs, v.typeOf.WidensTo c := by
  rw [forall_present_iff, DataType.array_widensTo_iff, any_isNull_iff]
  constructor
  · rintro (rfl | ⟨d, n, rfl, hd, hn⟩) v hv
    · exact DataType.WidensTo.string _
    · obtain ⟨kind, items, rfl⟩ := eq_seq_of_shape (hall v hv)
      have hmem := (mem_present.1 hv).1
      have hunder : ∀ w ∈ items, w ∈ allUnder .element vs :=
        fun w hw => mem_allUnder_element.2 ⟨kind, items, hmem, hw⟩
      refine (typeOf_seq_widensTo_iff hc).2 (Or.inr ⟨d, n, rfl, ?_, fun hw => hn (hunder _ hw)⟩)
      intro w hw
      exact (he d hc.element).1 hd w (hunder w hw)
  · intro h
    obtain ⟨v, hv⟩ := List.exists_mem_of_ne_nil _ hne
    rcases shape_of_widensTo (mem_present.1 hv).2 (h v hv) with
      rfl | ⟨hs, _⟩ | ⟨_, d, n, rfl⟩ | ⟨hs, _⟩
    · exact Or.inl rfl
    · rw [hall v hv] at hs
      cases hs
    · have hitems : ∀ kind items, .seq kind items ∈ vs →
          (∀ w ∈ items, w.typeOf.WidensTo d) ∧ (.null ∈ items → n = true) := by
        intro kind items hmem
        rcases (typeOf_seq_widensTo_iff hc).1 (h _ (mem_present.2 ⟨hmem, by simp⟩)) with
          hstring | ⟨d', n', hdn, hitems⟩
        · cases hstring
        · obtain ⟨rfl, rfl⟩ := DataType.array.inj hdn
          exact hitems
      refine Or.inr ⟨d, n, rfl, (he d hc.element).2 fun w hw => ?_, fun hnull => ?_⟩
      · obtain ⟨kind, items, hmem, hw⟩ := mem_allUnder_element.1 hw
        exact (hitems kind items hmem).1 w hw
      · obtain ⟨kind, items, hmem, hnull⟩ := mem_allUnder_element.1 hnull
        exact (hitems kind items hmem).2 hnull
    · rw [hall v hv] at hs
      cases hs

omit hc in
theorem atom_widensTo_iff_of_scalars (hall : ∀ v ∈ present vs, v.shape = .scalar) :
    (((Atom.leastCommon? ((present vs).filterMap scalarAtom?)).map .atom).getD
        DataType.string).WidensTo c ↔ ∀ v ∈ vs, v.typeOf.WidensTo c := by
  have hatom : ∀ a ∈ (present vs).filterMap scalarAtom?,
      ∃ v ∈ present vs, v.typeOf = .atom a ∧ a ∈ Atom.standard := by
    intro a ha
    obtain ⟨v, hv, ha⟩ := List.mem_filterMap.1 ha
    obtain ⟨b, hb, hvb, htype⟩ := exists_atom_typeOf (hall v hv)
    obtain rfl := Option.some.inj (ha.symm.trans hvb)
    exact ⟨v, hv, htype, hb⟩
  have hvalue : ∀ v ∈ present vs, ∃ a ∈ (present vs).filterMap scalarAtom?, v.typeOf = .atom a := by
    intro v hv
    obtain ⟨a, _, hva, htype⟩ := exists_atom_typeOf (hall v hv)
    exact ⟨a, List.mem_filterMap.2 ⟨v, hv, hva⟩, htype⟩
  rw [forall_present_iff, DataType.leastCommon?_widensTo_iff]
  · constructor
    · intro h v hv
      obtain ⟨a, ha, htype⟩ := hvalue v hv
      rw [htype]
      exact h a ha
    · intro h a ha
      obtain ⟨v, hv, htype, _⟩ := hatom a ha
      rw [← htype]
      exact h v hv
  · obtain ⟨v, hv⟩ := List.exists_mem_of_ne_nil _ hne
    obtain ⟨a, ha, _⟩ := hvalue v hv
    exact List.ne_nil_of_mem ha
  · intro a ha
    obtain ⟨v, hv, htype, hstandard⟩ := hatom a ha
    refine ⟨hstandard, ?_⟩
    rintro rfl
    exact (mem_present.1 hv).2 (typeOf_eq_null_iff.1 htype)

omit hc hne in
theorem string_widensTo_iff_of_mixture (hmap : ¬ ∀ v ∈ present vs, v.shape = .mapping)
    (hseq : ¬ ∀ v ∈ present vs, v.shape = .sequence)
    (hscalar : ¬ ∀ v ∈ present vs, v.shape = .scalar) :
    DataType.string.WidensTo c ↔ ∀ v ∈ vs, v.typeOf.WidensTo c := by
  rw [forall_present_iff]
  constructor
  · intro h v _
    rw [DataType.eq_string_of_string_widensTo h]
    exact DataType.WidensTo.string _
  · intro h
    by_cases hc : c = .string
    · rw [hc]
      exact DataType.WidensTo.string _
    · -- All values then have the one shape that the type has.
      have hshape := fun v hv => (shape_of_widensTo (mem_present.1 hv).2 (h v hv)).resolve_left hc
      cases c with
      | struct fs =>
        refine absurd (fun v hv => ?_) hmap
        simpa using hshape v hv
      | array e n =>
        refine absurd (fun v hv => ?_) hseq
        simpa using hshape v hv
      | atom a =>
        refine absurd (fun v hv => ?_) hscalar
        simpa using hshape v hv

end Shapes

theorem typeOfAll_widensTo_iff (vs : List Value) {c : DataType} (hc : c.WellFormed) :
    (typeOfAll vs).WidensTo c ↔ ∀ v ∈ vs, v.typeOf.WidensTo c := by
  fun_induction typeOfAll vs generalizing c with
  | case1 vs hnone =>
    have hnil : present vs = [] := List.isEmpty_iff.1 hnone
    rw [forall_present_iff, hnil]
    simp [DataType.WidensTo.null]
  | case2 vs hsome hall ih =>
    have hne : present vs ≠ [] := fun h => hsome (List.isEmpty_iff.2 h)
    exact struct_widensTo_iff_of_mappings hc hne (by simpa using hall) fun name d => ih name
  | case3 vs hsome _ hall ih =>
    have hne : present vs ≠ [] := fun h => hsome (List.isEmpty_iff.2 h)
    exact array_widensTo_iff_of_sequences hc hne (by simpa using hall) fun d => ih
  | case4 vs hsome _ _ hall =>
    have hne : present vs ≠ [] := fun h => hsome (List.isEmpty_iff.2 h)
    exact atom_widensTo_iff_of_scalars hne (by simpa using hall)
  | case5 vs _ hmap hseq hscalar =>
    exact string_widensTo_iff_of_mixture (by simpa using hmap) (by simpa using hseq)
      (by simpa using hscalar)

theorem wellFormed_typeOfAll (vs : List Value) : (typeOfAll vs).WellFormed := by
  fun_induction typeOfAll vs with
  | case1 => trivial
  | case2 vs _ _ ih =>
    have hdistinct : FieldTypes.Distinct ((allNames vs).map fun name =>
        (name, typeOfAll (allUnder (.field name) vs))) := by
      have hnames : (allNames vs).Nodup := List.nodup_dedup _
      rw [FieldTypes.Distinct, FieldTypes.names, List.map_map]
      simpa [Function.comp_def] using hnames
    rw [DataType.WellFormed, DataType.wellFormedFields_iff]
    refine ⟨Field.ascending_sort hdistinct, fun f hf => ?_⟩
    obtain ⟨name, _, rfl⟩ := List.mem_map.1 ((Field.sort_perm _).mem_iff.1 hf)
    exact ih name
  | case3 vs _ _ _ ih =>
    rw [DataType.WellFormed]
    exact ih
  | case4 vs => cases Atom.leastCommon? ((present vs).filterMap scalarAtom?) <;> trivial
  | case5 => trivial

/-- Joining the types of values one after another gives their type in one pass. -/
theorem foldl_join_typeOf (vs : List Value) :
    (vs.map typeOf).foldl DataType.join .null = typeOfAll vs := by
  have hnull : DataType.null.WellFormed := trivial
  have htypes := wellFormed_map_typeOf vs
  refine DataType.eq_of_widensTo_iff (DataType.wellFormed_foldl_join hnull htypes)
    (wellFormed_typeOfAll vs) fun c hc => ?_
  rw [DataType.foldl_join_widensTo_iff hnull htypes hc, typeOfAll_widensTo_iff vs hc,
    List.forall_mem_map]
  exact and_iff_right (DataType.WidensTo.null c)

theorem typeOfAll_eq_null_iff {vs : List Value} :
    typeOfAll vs = .null ↔ ∀ v ∈ vs, v = .null := by
  have hnull : DataType.null.WellFormed := trivial
  have hwidens (t : DataType) : t = .null ↔ t.WidensTo .null :=
    ⟨fun h => h ▸ DataType.WidensTo.null _, DataType.eq_null_of_widensTo_null⟩
  rw [hwidens, typeOfAll_widensTo_iff vs hnull]
  refine forall₂_congr fun v _ => ?_
  rw [← hwidens, typeOf_eq_null_iff]

theorem eq_typeOfAll_of_array {vs : List Value} {e : DataType} {n : Bool}
    (h : typeOfAll vs = .array e n) :
    e = typeOfAll (allUnder .element vs) ∧ n = (allUnder .element vs).any isNull := by
  rw [typeOfAll] at h
  split_ifs at h
  · obtain ⟨rfl, rfl⟩ := DataType.array.inj h
    exact ⟨rfl, rfl⟩
  · cases hleast : Atom.leastCommon? ((present vs).filterMap scalarAtom?) <;>
      (rw [hleast] at h; cases h)

theorem eq_typeOfAll_of_struct {vs : List Value} {fs : List Field} (h : typeOfAll vs = .struct fs)
    {f : Field} (hf : f ∈ fs) : f.2 = typeOfAll (allUnder (.field f.1) vs) := by
  rw [typeOfAll] at h
  split_ifs at h
  · obtain rfl := DataType.struct.inj h
    obtain ⟨name, _, rfl⟩ := List.mem_map.1 ((Field.sort_perm _).mem_iff.1 hf)
    rfl
  · cases hleast : Atom.leastCommon? ((present vs).filterMap scalarAtom?) <;>
      (rw [hleast] at h; cases h)

def observed : List PathStep → List Value → List Value
  | [], vs => vs
  | s :: path, vs => observed path (allUnder s vs)

end Value

def DataType.typeAt : List PathStep → DataType → Option DataType
  | [], t => some t
  | .field name :: path, .struct fs => (FieldTypes.get? fs name).bind (typeAt path)
  | .element :: path, .array e _ => typeAt path e
  | _ :: _, _ => none

namespace Value

/-- At every path of the result stands the type in one pass of what was observed there. -/
theorem typeAt_typeOfAll {path : List PathStep} {vs : List Value} {t : DataType}
    (h : (typeOfAll vs).typeAt path = some t) : t = typeOfAll (observed path vs) := by
  induction path generalizing vs with
  | nil => exact (Option.some.inj h).symm
  | cons s path ih =>
    rw [observed]
    cases s with
    | field name =>
      cases htype : typeOfAll vs with
      | struct fs =>
        rw [htype, DataType.typeAt] at h
        obtain ⟨u, hu, ht⟩ := Option.bind_eq_some_iff.1 h
        have hfield := eq_typeOfAll_of_struct htype (FieldTypes.mem_of_get?_eq_some hu)
        exact ih (hfield ▸ ht)
      | _ =>
        rw [htype] at h
        cases h
    | element =>
      cases htype : typeOfAll vs with
      | array e n =>
        rw [htype, DataType.typeAt] at h
        exact ih ((eq_typeOfAll_of_array htype).1 ▸ h)
      | _ =>
        rw [htype] at h
        cases h

/-- The running join of the types of values is their type in one pass. In it an array contains null
exactly where an observed sequence held one, and null is left exactly where nothing else was
observed. With a key without a text there is no result. -/
theorem joinTypes_eq_typeOfAll (vs : List Value) :
    ((∀ v ∈ vs, v.Named) →
      joinTypes .null vs = .ok (typeOfAll vs) ∧
      ∀ path t, (typeOfAll vs).typeAt path = some t →
        (∀ e n, t = .array e n →
          (n = true ↔ ∃ kind items, .seq kind items ∈ observed path vs ∧ .null ∈ items)) ∧
        (t = .null ↔ ∀ v ∈ observed path vs, v = .null)) ∧
    (¬ (∀ v ∈ vs, v.Named) → ∃ fault, joinTypes .null vs = .error (.textless fault)) := by
  rcases joinTypes_ok_or_textless .null vs with ⟨hnamed, hjoin⟩ | ⟨hnot, herror⟩
  · refine ⟨fun _ => ⟨?_, fun path t ht => ⟨fun e n hen => ?_, ?_⟩⟩, fun hnot => absurd hnamed hnot⟩
    · rw [hjoin, foldl_join_typeOf]
    · rw [typeAt_typeOfAll ht] at hen
      rw [(eq_typeOfAll_of_array hen).2, any_isNull_iff, mem_allUnder_element]
    · rw [typeAt_typeOfAll ht, typeOfAll_eq_null_iff]
  · exact ⟨fun hnamed => absurd hnamed hnot, fun _ => herror⟩

/-- A key that is an integer in one mapping and a text in another, and arrays of which one is empty
and one holds null. -/
theorem joinTypes_eq_typeOfAll_nested :
    let vs : List Value :=
      [.map .plain [(.text "xs", .list []), (.int .plain 1, .null)], .null,
        .map .readOnly [(.text "1", .null), (.text "xs", .seq .tuple [.null, .bool true])]]
    joinTypes .null vs = .ok (typeOfAll vs) ∧
      typeOfAll vs = .struct [("1", .null), ("xs", .array .boolean true)] ∧
      ∃ kind items, .seq kind items ∈ observed [.field "xs"] vs ∧ .null ∈ items := by
  intro vs
  have htype : typeOfAll vs = .struct [("1", .null), ("xs", .array .boolean true)] := by
    decide +kernel
  obtain ⟨hjoin, hpaths⟩ := (joinTypes_eq_typeOfAll vs).1 (by decide)
  have hat : (typeOfAll vs).typeAt [.field "xs"] = some (.array .boolean true) := by
    rw [htype]
    decide
  exact ⟨hjoin, htype, ((hpaths _ _ hat).1 _ _ rfl).1 rfl⟩

/-- A mapping with a key without a text beside an integer: in one pass the elements are a string,
but the join has no result. -/
theorem joinTypes_fails_on_mixture :
    let document : Value :=
      .list [.map .plain [(.wrapped .fixed [0], .int .plain 1)], .int .plain 5]
    typeOfAll [document] = .array .string false ∧
      joinTypes .null [document] = .error (.textless (.notText "bytes")) := by
  constructor
  · decide +kernel
  · decide +kernel

end Value

end TabularSchema
