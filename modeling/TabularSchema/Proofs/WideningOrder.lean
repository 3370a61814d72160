import Mathlib.Logic.Relation
import TabularSchema.DataType.Widening
import TabularSchema.Proofs.FieldLookup

/-!
# The widening order on types

One type widens to another that describes everything it describes. Null widens to every type and
every type to a string; atoms widen along a chain of single steps, a struct to one that has each of
its fields at a type the field widens to, and an array to one of wider elements that contains null
if the first does. The order is defined without the join and without the table of bounds;
`Atom.widensTo_iff` says that the table lists what the steps reach. On well-formed types it is a
partial order.
-/

namespace TabularSchema

namespace Atom

/-- The single steps in which atoms widen. -/
def steps : List (Atom × Atom) :=
  [(byte, short), (short, integer), (integer, long), (long, decimal), (long, float),
    (decimal, double), (float, double), (date, timestamp)]

/-- An atom widens to the atoms that any number of steps reaches from it. -/
def WidensTo : Atom → Atom → Prop := Relation.ReflTransGen (fun a b => (a, b) ∈ steps)

theorem mem_standard_of_mem_bounds {a b : Atom} (h : b ∈ a.bounds) : a ∈ standard := by
  by_contra hs
  have hne : ∀ c ∈ standard, a ≠ c := fun c hc e => hs (e ▸ hc)
  have hnil : a.bounds = [] := by
    rw [bounds, if_neg (hne byte (by decide)), if_neg (hne short (by decide)),
      if_neg (hne integer (by decide)), if_neg (hne long (by decide)),
      if_neg (hne decimal (by decide)), if_neg (hne float (by decide)),
      if_neg (hne double (by decide)), if_neg (hne date (by decide)),
      if_neg (hne timestamp (by decide))]
  rw [hnil] at h
  cases h

theorem bounds_of_step :
    ∀ s ∈ steps, s.2 ∈ s.1.bounds ∧ (∀ c ∈ s.2.bounds, c ∈ s.1.bounds) ∧
      s.2.bounds.length < s.1.bounds.length := by decide

theorem exists_step_of_mem_bounds :
    ∀ a ∈ standard, ∀ b ∈ a.bounds, b = a ∨ ∃ s ∈ steps, s.1 = a ∧ b ∈ s.2.bounds := by decide

theorem bounds_antisymm : ∀ a ∈ standard, ∀ b ∈ a.bounds, a ∈ b.bounds → a = b := by decide

theorem mem_bounds_self : ∀ a ∈ standard, ∀ b ∈ a.bounds, b ∈ b.bounds := by decide

theorem widensTo_of_mem_bounds {a b : Atom} (h : b ∈ a.bounds) : a.WidensTo b := by
  -- Each step shortens the list of bounds.
  induction hn : a.bounds.length using Nat.strong_induction_on generalizing a with
  | _ n ih =>
    rcases exists_step_of_mem_bounds a (mem_standard_of_mem_bounds h) b h with rfl | hs
    · exact Relation.ReflTransGen.refl
    · obtain ⟨⟨_, c⟩, hs, rfl, hc⟩ := hs
      have hlt : c.bounds.length < n := hn ▸ (bounds_of_step _ hs).2.2
      exact Relation.ReflTransGen.head hs (ih _ hlt hc rfl)

theorem widensTo_iff {a b : Atom} : a.WidensTo b ↔ a = b ∨ b ∈ a.bounds := by
  constructor
  · intro h
    induction h using Relation.ReflTransGen.head_induction_on with
    | refl => exact Or.inl rfl
    | head hs _ ih =>
      obtain ⟨hmem, htrans, _⟩ := bounds_of_step _ hs
      rcases ih with rfl | ih
      · exact Or.inr hmem
      · exact Or.inr (htrans _ ih)
  · rintro (rfl | h)
    · exact Relation.ReflTransGen.refl
    · exact widensTo_of_mem_bounds h

theorem WidensTo.refl (a : Atom) : a.WidensTo a := Relation.ReflTransGen.refl

theorem WidensTo.trans {a b c : Atom} (hab : a.WidensTo b) (hbc : b.WidensTo c) : a.WidensTo c :=
  Relation.ReflTransGen.trans hab hbc

theorem WidensTo.antisymm {a b : Atom} (hab : a.WidensTo b) (hba : b.WidensTo a) : a = b := by
  rcases widensTo_iff.1 hab with h | h
  · exact h
  rcases widensTo_iff.1 hba with h' | h'
  · exact h'.symm
  · exact bounds_antisymm a (mem_standard_of_mem_bounds h) b h h'

theorem eq_null_of_widensTo_null {a : Atom} (h : a.WidensTo null) : a = null := by
  rcases widensTo_iff.1 h with h | h
  · exact h
  · have hnone : ∀ a ∈ standard, null ∉ a.bounds := by decide
    exact absurd h (hnone a (mem_standard_of_mem_bounds h))

theorem eq_string_of_string_widensTo {a : Atom} (h : string.WidensTo a) : a = string := by
  rcases widensTo_iff.1 h with h | h
  · exact h.symm
  · have hnone : string.bounds = [] := by decide
    simp [hnone] at h

end Atom

namespace DataType

/-- Induction on a type, where the fields of a struct are given by membership. -/
@[elab_as_elim]
theorem inductionOn {P : DataType → Prop} (atom : ∀ a, P (.atom a))
    (array : ∀ e n, P e → P (.array e n))
    (struct : ∀ fs : List Field, (∀ f ∈ fs, P f.2) → P (.struct fs)) (t : DataType) : P t :=
  @DataType.rec P (fun fs => ∀ f ∈ fs, P f.2) (fun f => P f.2) atom array struct (by simp)
    (fun _ _ hf hfs => List.forall_mem_cons.2 ⟨hf, hfs⟩) (fun _ _ h => h) t

theorem wellFormedFields_iff {fs : List Field} :
    WellFormedFields fs ↔ Field.Ascending fs ∧ ∀ f ∈ fs, f.2.WellFormed := by
  induction fs with
  | nil => simp [WellFormedFields, Field.Ascending.nil]
  | cons f fs ih =>
    obtain ⟨n, t⟩ := f
    rw [WellFormedFields, ih, Field.ascending_cons, List.forall_mem_cons]
    tauto

theorem WellFormed.element {e : DataType} {n : Bool} (h : WellFormed (.array e n)) :
    e.WellFormed := by
  rwa [WellFormed] at h

theorem WellFormed.ascending {fs : List Field} (h : WellFormed (.struct fs)) : Field.Ascending fs :=
  (wellFormedFields_iff.1 h).1

theorem WellFormed.distinct {fs : List Field} (h : WellFormed (.struct fs)) :
    FieldTypes.Distinct fs := h.ascending.distinct

theorem WellFormed.of_mem {fs : List Field} (h : WellFormed (.struct fs)) {f : Field}
    (hf : f ∈ fs) : f.2.WellFormed := (wellFormedFields_iff.1 h).2 f hf

mutual

/-- The first type widens to the second. -/
inductive WidensTo : DataType → DataType → Prop
  | null (t : DataType) : WidensTo null t
  | string (t : DataType) : WidensTo t string
  | atom {a b : Atom} : a.WidensTo b → WidensTo (.atom a) (.atom b)
  | array {e f : DataType} {n m : Bool} :
      WidensTo e f → (n = true → m = true) → WidensTo (.array e n) (.array f m)
  | struct {fs gs : List (String × DataType)} :
      FieldsWiden fs gs → WidensTo (.struct fs) (.struct gs)

/-- Each of the first fields is among the second ones, at a type that it widens to. -/
inductive FieldsWiden : List (String × DataType) → List (String × DataType) → Prop
  | nil (gs : List (String × DataType)) : FieldsWiden [] gs
  | cons {name : String} {t u : DataType} {fs gs : List (String × DataType)} :
      (name, u) ∈ gs → WidensTo t u → FieldsWiden fs gs → FieldsWiden ((name, t) :: fs) gs

end

theorem fieldsWiden_iff {fs gs : List Field} :
    FieldsWiden fs gs ↔ ∀ f ∈ fs, ∃ u, (f.1, u) ∈ gs ∧ f.2.WidensTo u := by
  induction fs with
  | nil => simp [FieldsWiden.nil]
  | cons f fs ih =>
    obtain ⟨name, t⟩ := f
    rw [List.forall_mem_cons, ← ih]
    constructor
    · intro h
      cases h with
      | cons hmem ht hfs => exact ⟨⟨_, hmem, ht⟩, hfs⟩
    · rintro ⟨⟨u, hmem, hu⟩, hfs⟩
      exact FieldsWiden.cons hmem hu hfs

theorem fieldsWiden_cons_iff {f : Field} {fs gs : List Field} :
    FieldsWiden (f :: fs) gs ↔ (∃ u, (f.1, u) ∈ gs ∧ f.2.WidensTo u) ∧ FieldsWiden fs gs := by
  rw [fieldsWiden_iff, List.forall_mem_cons, ← fieldsWiden_iff]

theorem fieldsWiden_flatten_iff {gss : List (List Field)} {hs : List Field} :
    FieldsWiden gss.flatten hs ↔ ∀ gs ∈ gss, FieldsWiden gs hs := by
  simp only [fieldsWiden_iff, List.mem_flatten]
  constructor
  · intro h gs hgs f hf
    exact h f ⟨gs, hgs, hf⟩
  · rintro h f ⟨gs, hgs, hf⟩
    exact h gs hgs f hf

theorem FieldsWiden.get? {fs gs : FieldTypes} (h : FieldsWiden fs gs) (hg : gs.Distinct)
    {name : String} {t : DataType} (ht : fs.get? name = some t) :
    ∃ u, gs.get? name = some u ∧ t.WidensTo u := by
  obtain ⟨u, hu, htu⟩ := fieldsWiden_iff.1 h (name, t) (FieldTypes.mem_of_get?_eq_some ht)
  exact ⟨u, (FieldTypes.get?_eq_some_iff hg).2 hu, htu⟩

theorem fieldsWiden_of_get? {fs gs : FieldTypes} (hf : fs.Distinct)
    (h : ∀ name t, fs.get? name = some t → ∃ u, gs.get? name = some u ∧ t.WidensTo u) :
    FieldsWiden fs gs := by
  refine fieldsWiden_iff.2 fun f hmem => ?_
  obtain ⟨u, hu, hfu⟩ := h f.1 f.2 ((FieldTypes.get?_eq_some_iff hf).2 hmem)
  exact ⟨u, FieldTypes.mem_of_get?_eq_some hu, hfu⟩

theorem atom_widensTo_iff {a : Atom} {t : DataType} :
    WidensTo (.atom a) t ↔ a = .null ∨ t = string ∨ ∃ b, t = .atom b ∧ a.WidensTo b := by
  constructor
  · intro h
    cases h with
    | null => exact Or.inl rfl
    | string => exact Or.inr (Or.inl rfl)
    | atom h => exact Or.inr (Or.inr ⟨_, rfl, h⟩)
  · rintro (rfl | rfl | ⟨b, rfl, h⟩)
    · exact WidensTo.null t
    · exact WidensTo.string _
    · exact WidensTo.atom h

theorem array_widensTo_iff {e : DataType} {n : Bool} {t : DataType} :
    WidensTo (.array e n) t ↔
      t = string ∨ ∃ f m, t = .array f m ∧ e.WidensTo f ∧ (n = true → m = true) := by
  constructor
  · intro h
    cases h with
    | string => exact Or.inl rfl
    | array he hn => exact Or.inr ⟨_, _, rfl, he, hn⟩
  · rintro (rfl | ⟨f, m, rfl, he, hn⟩)
    · exact WidensTo.string _
    · exact WidensTo.array he hn

theorem struct_widensTo_iff {fs : List Field} {t : DataType} :
    WidensTo (.struct fs) t ↔ t = string ∨ ∃ gs, t = .struct gs ∧ FieldsWiden fs gs := by
  constructor
  · intro h
    cases h with
    | string => exact Or.inl rfl
    | struct h => exact Or.inr ⟨_, rfl, h⟩
  · rintro (rfl | ⟨gs, rfl, h⟩)
    · exact WidensTo.string _
    · exact WidensTo.struct h

theorem eq_null_of_widensTo_null {t : DataType} (h : t.WidensTo null) : t = null := by
  cases t with
  | atom a =>
    rcases atom_widensTo_iff.1 h with rfl | h | ⟨b, hb, hab⟩
    · rfl
    · exact absurd h (by decide)
    · obtain rfl := DataType.atom.inj hb
      rw [Atom.eq_null_of_widensTo_null hab]
  | array e n =>
    rcases array_widensTo_iff.1 h with h | ⟨f, m, hf, _⟩
    · exact absurd h (by decide)
    · cases hf
  | struct fs =>
    rcases struct_widensTo_iff.1 h with h | ⟨gs, hgs, _⟩
    · exact absurd h (by decide)
    · cases hgs

theorem eq_string_of_string_widensTo {t : DataType} (h : string.WidensTo t) : t = string := by
  rcases atom_widensTo_iff.1 h with h | h | ⟨b, rfl, hb⟩
  · exact absurd h (by decide)
  · exact h
  · rw [Atom.eq_string_of_string_widensTo hb]

theorem WidensTo.refl (t : DataType) : t.WidensTo t := by
  induction t using inductionOn with
  | atom a => exact WidensTo.atom (Atom.WidensTo.refl a)
  | array e n ih => exact WidensTo.array ih id
  | struct fs ih => exact WidensTo.struct (fieldsWiden_iff.2 fun f hf => ⟨f.2, hf, ih f hf⟩)

theorem FieldsWiden.refl (fs : List Field) : FieldsWiden fs fs :=
  fieldsWiden_iff.2 fun f hf => ⟨f.2, hf, WidensTo.refl f.2⟩

theorem WidensTo.trans {a b c : DataType} (hab : a.WidensTo b) (hbc : b.WidensTo c) :
    a.WidensTo c := by
  induction a using inductionOn generalizing b c with
  | atom a =>
    rcases atom_widensTo_iff.1 hab with rfl | rfl | ⟨b, rfl, hb⟩
    · exact WidensTo.null c
    · rw [eq_string_of_string_widensTo hbc]
      exact WidensTo.string _
    · rcases atom_widensTo_iff.1 hbc with rfl | rfl | ⟨c, rfl, hc⟩
      · rw [Atom.eq_null_of_widensTo_null hb]
        exact WidensTo.null c
      · exact WidensTo.string _
      · exact WidensTo.atom (hb.trans hc)
  | array e n ih =>
    rcases array_widensTo_iff.1 hab with rfl | ⟨f, m, rfl, he, hn⟩
    · rw [eq_string_of_string_widensTo hbc]
      exact WidensTo.string _
    · rcases array_widensTo_iff.1 hbc with rfl | ⟨g, k, rfl, hf, hm⟩
      · exact WidensTo.string _
      · exact WidensTo.array (ih he hf) (fun h => hm (hn h))
  | struct fs ih =>
    rcases struct_widensTo_iff.1 hab with rfl | ⟨gs, rfl, hfg⟩
    · rw [eq_string_of_string_widensTo hbc]
      exact WidensTo.string _
    · rcases struct_widensTo_iff.1 hbc with rfl | ⟨hs, rfl, hgh⟩
      · exact WidensTo.string _
      · refine WidensTo.struct (fieldsWiden_iff.2 fun f hf => ?_)
        obtain ⟨u, hu, hfu⟩ := fieldsWiden_iff.1 hfg f hf
        obtain ⟨v, hv, huv⟩ := fieldsWiden_iff.1 hgh (f.1, u) hu
        exact ⟨v, hv, ih f hf hfu huv⟩

/-- Well-formed types that widen to each other are equal. For structs this needs that each name
stands in them once and in its place. -/
theorem WidensTo.antisymm {a b : DataType} (ha : a.WellFormed) (hb : b.WellFormed)
    (hab : a.WidensTo b) (hba : b.WidensTo a) : a = b := by
  induction a using inductionOn generalizing b with
  | atom a =>
    rcases atom_widensTo_iff.1 hab with rfl | rfl | ⟨b, rfl, h⟩
    · exact (eq_null_of_widensTo_null hba).symm
    · exact eq_string_of_string_widensTo hba
    · rcases atom_widensTo_iff.1 hba with rfl | h' | ⟨c, hc, h'⟩
      · rw [Atom.eq_null_of_widensTo_null h]
      · obtain rfl := DataType.atom.inj h'
        rw [Atom.eq_string_of_string_widensTo h]
      · obtain rfl := DataType.atom.inj hc
        rw [h.antisymm h']
  | array e n ih =>
    rcases array_widensTo_iff.1 hab with rfl | ⟨f, m, rfl, he, hn⟩
    · exact eq_string_of_string_widensTo hba
    · rcases array_widensTo_iff.1 hba with h | ⟨e', n', hfm, hf, hm⟩
      · cases h
      · obtain ⟨rfl, rfl⟩ := DataType.array.inj hfm
        rw [ih ha.element hb.element he hf, Bool.eq_iff_iff.2 ⟨hn, hm⟩]
  | struct fs ih =>
    rcases struct_widensTo_iff.1 hab with rfl | ⟨gs, rfl, hfg⟩
    · exact eq_string_of_string_widensTo hba
    · rcases struct_widensTo_iff.1 hba with h | ⟨fs', hfs, hgf⟩
      · cases h
      · obtain rfl := DataType.struct.inj hfs
        have hname : ∀ name t,
            FieldTypes.get? fs name = some t → FieldTypes.get? gs name = some t := by
          intro name t ht
          obtain ⟨u, hu, htu⟩ := hfg.get? hb.distinct ht
          obtain ⟨t', ht', hut⟩ := hgf.get? ha.distinct hu
          obtain rfl := Option.some.inj (ht.symm.trans ht')
          have hft := FieldTypes.mem_of_get?_eq_some ht
          have hgu := FieldTypes.mem_of_get?_eq_some hu
          have heq : t = u := ih (name, t) hft (ha.of_mem hft) (hb.of_mem hgu) htu hut
          rw [hu, heq]
        congr 1
        refine ha.ascending.ext hb.ascending (fun name => ?_)
        cases hf : FieldTypes.get? fs name with
        | some t => exact (hname name t hf).symm
        | none =>
          cases hg : FieldTypes.get? gs name with
          | none => rfl
          | some u =>
            obtain ⟨t, ht, _⟩ := hgf.get? ha.distinct hg
            rw [hf] at ht
            cases ht

end DataType

end TabularSchema
