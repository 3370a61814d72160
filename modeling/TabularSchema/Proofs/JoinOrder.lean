import Mathlib.Order.Lattice
import TabularSchema.DataType.Join
import TabularSchema.Proofs.WideningOrder

/-!
# The join is the least upper bound

For each pair of shapes one equation says what `join` gives, also for equal types; the join of two
lists of fields is described by its look-ups. From them it follows that the join of well-formed
types is well-formed, that both widen to it, and that it widens to every well-formed type both widen
to.
-/

namespace TabularSchema

namespace Atom

theorem mem_bounds_of_commonBound? {a b c : Atom} (h : a.commonBound? b = some c) :
    c ∈ a.bounds ∧ c ∈ b.bounds :=
  ⟨List.mem_of_find?_eq_some h, by simpa using List.find?_some h⟩

theorem not_mem_bounds_of_commonBound? {a b c : Atom} (h : a.commonBound? b = none)
    (ha : c ∈ a.bounds) : c ∉ b.bounds := by
  simpa using List.find?_eq_none.1 h c ha

theorem commonBound?_least :
    ∀ a ∈ standard, ∀ b ∈ standard, ∀ c ∈ a.commonBound? b, ∀ d ∈ a.bounds, d ∈ b.bounds →
      d ∈ c.bounds := by decide

theorem mem_bounds_of_common {a b c : Atom} (hab : a ≠ b) (ha : a.WidensTo c) (hb : b.WidensTo c) :
    c ∈ a.bounds ∧ c ∈ b.bounds := by
  rcases widensTo_iff.1 ha with rfl | ha
  · rcases widensTo_iff.1 hb with h | hb
    · exact absurd h.symm hab
    · exact ⟨mem_bounds_self b (mem_standard_of_mem_bounds hb) a hb, hb⟩
  · rcases widensTo_iff.1 hb with rfl | hb
    · exact ⟨ha, mem_bounds_self a (mem_standard_of_mem_bounds ha) b ha⟩
    · exact ⟨ha, hb⟩

theorem commonBound?_of_common {a b c : Atom} (hab : a ≠ b) (ha : a.WidensTo c)
    (hb : b.WidensTo c) : ∃ d, a.commonBound? b = some d ∧ d.WidensTo c := by
  obtain ⟨hca, hcb⟩ := mem_bounds_of_common hab ha hb
  cases hd : a.commonBound? b with
  | none => exact absurd hcb (not_mem_bounds_of_commonBound? hd hca)
  | some d =>
    have hcd := commonBound?_least a (mem_standard_of_mem_bounds hca) b
      (mem_standard_of_mem_bounds hcb) d hd c hca hcb
    exact ⟨d, rfl, widensTo_of_mem_bounds hcd⟩

end Atom

namespace DataType

theorem join_eq_of_tightestCommon? {a b t : DataType} (h : tightestCommon? a b = some t) :
    join a b = t := by
  rw [join.eq_def, h]

@[simp] theorem join_self (t : DataType) : join t t = t :=
  join_eq_of_tightestCommon? (if_pos rfl)

@[simp] theorem null_join (t : DataType) : join null t = t := by
  apply join_eq_of_tightestCommon?
  rw [tightestCommon?.eq_def]
  by_cases h : null = t
  · rw [if_pos h, h]
  · rw [if_neg h, if_pos rfl]

@[simp] theorem join_null (t : DataType) : join t null = t := by
  apply join_eq_of_tightestCommon?
  rw [tightestCommon?.eq_def]
  by_cases h : t = null
  · rw [if_pos h]
  · rw [if_neg h, if_neg h, if_pos rfl]

theorem join_atom_atom {a b : Atom} (hab : a ≠ b) (ha : a ≠ .null) (hb : b ≠ .null) :
    join (.atom a) (.atom b) = ((a.commonBound? b).map .atom).getD string := by
  have h : tightestCommon? (.atom a) (.atom b) = (a.commonBound? b).map .atom := by
    rw [tightestCommon?, if_neg (by simpa using hab), if_neg (by simpa using ha),
      if_neg (by simpa using hb)]
  rw [join.eq_def, h]
  cases a.commonBound? b <;> rfl

theorem join_array_array (e f : DataType) (n m : Bool) :
    join (.array e n) (.array f m) = .array (join e f) (n || m) := by
  by_cases h : DataType.array e n = .array f m
  · obtain ⟨rfl, rfl⟩ := DataType.array.inj h
    rw [join_self, join_self, Bool.or_self]
  · have hnone : tightestCommon? (.array e n) (.array f m) = none := by
      rw [tightestCommon?.eq_def, if_neg h, if_neg (by simp), if_neg (by simp)]
    rw [join, hnone]

theorem joinFields_self (fs : List Field) : joinFields fs fs = fs := by
  induction fs with
  | nil => rfl
  | cons f fs ih =>
    obtain ⟨n, t⟩ := f
    rw [joinFields,
      List.takeWhile_cons_of_neg (by simpa only [decide_eq_true_eq] using lt_irrefl n),
      List.dropWhile_cons_of_neg (by simpa only [decide_eq_true_eq] using lt_irrefl n)]
    simp only [if_true, List.nil_append, ih, join_self]

theorem join_struct_struct (fs gs : List Field) :
    join (.struct fs) (.struct gs) = .struct (joinFields fs gs) := by
  by_cases h : DataType.struct fs = .struct gs
  · obtain rfl := DataType.struct.inj h
    rw [join_self, joinFields_self]
  · have hnone : tightestCommon? (.struct fs) (.struct gs) = none := by
      rw [tightestCommon?.eq_def, if_neg h, if_neg (by simp), if_neg (by simp)]
    rw [join, hnone]

/-- Types of different shapes, neither of them null. -/
def Conflict : DataType → DataType → Prop
  | .atom _, .atom _ => False
  | .array _ _, .array _ _ => False
  | .struct _, .struct _ => False
  | a, b => a ≠ null ∧ b ≠ null

theorem join_of_conflict {a b : DataType} (h : Conflict a b) : join a b = string := by
  have hab : a ≠ b := by
    rintro rfl
    cases a <;> exact h
  have hnull : a ≠ null ∧ b ≠ null := by
    cases a <;> cases b <;> first | exact h | exact h.elim
  have hnone : tightestCommon? a b = none := by
    rw [tightestCommon?.eq_def, if_neg hab, if_neg hnull.1, if_neg hnull.2]
    cases a <;> cases b <;> first | rfl | exact h.elim
  rw [join.eq_def, hnone]
  cases a <;> cases b <;> first | rfl | exact h.elim

/-- Induction on two types along the cases of their join. -/
@[elab_as_elim]
theorem join_induction {P : DataType → DataType → Prop} (null_left : ∀ b, P null b)
    (null_right : ∀ a, P a null) (same : ∀ a, P a a)
    (atoms : ∀ x y : Atom, x ≠ y → x ≠ .null → y ≠ .null → P (.atom x) (.atom y))
    (arrays : ∀ e f n m, P e f → P (.array e n) (.array f m))
    (structs : ∀ fs gs : List Field, (∀ f ∈ fs, ∀ u, P f.2 u) → P (.struct fs) (.struct gs))
    (conflict : ∀ a b, Conflict a b → P a b) (a b : DataType) : P a b := by
  induction a using inductionOn generalizing b with
  | atom x =>
    by_cases hx : x = .null
    · rw [hx]
      exact null_left b
    by_cases hb : b = null
    · rw [hb]
      exact null_right _
    cases b with
    | atom y =>
      by_cases hxy : x = y
      · rw [hxy]
        exact same _
      · exact atoms x y hxy hx (by simpa using hb)
    | array f m => exact conflict _ _ ⟨by simpa using hx, hb⟩
    | struct gs => exact conflict _ _ ⟨by simpa using hx, hb⟩
  | array e n ih =>
    cases b with
    | atom y =>
      by_cases hy : y = .null
      · rw [hy]
        exact null_right _
      · exact conflict _ _ ⟨by simp, by simpa using hy⟩
    | array f m => exact arrays e f n m (ih f)
    | struct gs => exact conflict _ _ ⟨by simp, by simp⟩
  | struct fs ih =>
    cases b with
    | atom y =>
      by_cases hy : y = .null
      · rw [hy]
        exact null_right _
      · exact conflict _ _ ⟨by simp, by simpa using hy⟩
    | array f m => exact conflict _ _ ⟨by simp, by simp⟩
    | struct gs => exact structs fs gs ih

/-- The fields before a name, the field of that name and the fields behind it make up fields with
ascending names. -/
theorem dropWhile_of_ascending {fs : FieldTypes} (h : Field.Ascending fs) (name : String) :
    fs.dropWhile (fun f => decide (f.1 < name)) =
      ((fs.get? name).map (name, ·)).toList ++ fs.filter (fun f => decide (name < f.1)) := by
  induction fs with
  | nil => rfl
  | cons f fs ih =>
    obtain ⟨hf, hfs⟩ := Field.ascending_cons.1 h
    rcases lt_trichotomy f.1 name with hlt | rfl | hgt
    · rw [List.dropWhile_cons_of_pos (by simpa only [decide_eq_true_eq] using hlt), ih hfs,
        FieldTypes.get?_cons, if_neg hlt.ne,
        List.filter_cons_of_neg (by simpa only [decide_eq_true_eq] using hlt.asymm)]
    · have hall : ∀ g ∈ fs, decide (f.1 < g.1) = true := fun g hg => decide_eq_true (hf g hg)
      rw [List.dropWhile_cons_of_neg (by simpa only [decide_eq_true_eq] using lt_irrefl f.1),
        FieldTypes.get?_cons, if_pos rfl,
        List.filter_cons_of_neg (by simpa only [decide_eq_true_eq] using lt_irrefl f.1),
        List.filter_eq_self.2 hall]
      rfl
    · have hbehind : ∀ g ∈ f :: fs, name < g.1 :=
        List.forall_mem_cons.2 ⟨hgt, fun g hg => hgt.trans (hf g hg)⟩
      rw [List.dropWhile_cons_of_neg (by simpa only [decide_eq_true_eq] using hgt.asymm),
        Field.Ascending.get?_eq_none hbehind,
        List.filter_eq_self.2 (fun g hg => decide_eq_true (hbehind g hg))]
      rfl

theorem takeWhile_of_ascending {fs : List Field} (h : Field.Ascending fs) (name : String) :
    fs.takeWhile (fun f => decide (f.1 < name)) = fs.filter (fun f => decide (f.1 < name)) := by
  induction fs with
  | nil => rfl
  | cons f fs ih =>
    obtain ⟨hf, hfs⟩ := Field.ascending_cons.1 h
    by_cases hlt : f.1 < name
    · rw [List.takeWhile_cons_of_pos (by simpa only [decide_eq_true_eq] using hlt),
        List.filter_cons_of_pos (by simpa only [decide_eq_true_eq] using hlt), ih hfs]
    · have hnone : ∀ g ∈ f :: fs, ¬ decide (g.1 < name) = true := by
        refine List.forall_mem_cons.2 ⟨by simpa only [decide_eq_true_eq] using hlt, fun g hg => ?_⟩
        simpa only [decide_eq_true_eq] using fun hgn => hlt ((hf g hg).trans hgn)
      rw [List.takeWhile_cons_of_neg (by exact hnone f List.mem_cons_self),
        List.filter_eq_nil_iff.2 hnone]

@[simp] theorem joinFields_nil_right (fs : List Field) : joinFields fs [] = fs := by
  cases fs with
  | nil => rfl
  | cons f fs => rfl

/-- The join of two lists of fields puts the first name in its place among the second fields and
goes on with those behind it. -/
theorem joinFields_cons {gs : FieldTypes} (hg : Field.Ascending gs) (name : String) (t : DataType)
    (fs : List Field) :
    joinFields ((name, t) :: fs) gs =
      gs.filter (fun g => decide (g.1 < name)) ++
        (name, (gs.get? name).elim t t.join) ::
          joinFields fs (gs.filter (fun g => decide (name < g.1))) := by
  rw [joinFields, takeWhile_of_ascending hg, dropWhile_of_ascending hg]
  congr 1
  cases hget : gs.get? name with
  | some u => simp only [Option.map_some, Option.toList_some, List.cons_append, List.nil_append,
      if_true, Option.elim_some]
  | none =>
    cases hrest : gs.filter (fun g => decide (name < g.1)) with
    | nil => simp
    | cons k ks =>
      have hk : name < k.1 := by
        have hmem : k ∈ gs.filter (fun g => decide (name < g.1)) := hrest ▸ List.mem_cons_self
        simpa only [decide_eq_true_eq] using (List.mem_filter.1 hmem).2
      simp only [Option.map_none, Option.toList_none, List.nil_append, if_neg hk.ne',
        Option.elim_none]

/-- Joined fields have, under each name, the join of what either side has there. -/
theorem get?_joinFields {fs gs : FieldTypes} (hf : Field.Ascending fs) (hg : Field.Ascending gs)
    (name : String) :
    FieldTypes.get? (joinFields fs gs) name = Option.merge join (fs.get? name) (gs.get? name) := by
  induction fs generalizing gs with
  | nil => simp [joinFields]
  | cons f fs ih =>
    obtain ⟨n, t⟩ := f
    obtain ⟨hn, hfs⟩ := Field.ascending_cons.1 hf
    rw [joinFields_cons hg, FieldTypes.get?_append, FieldTypes.get?_cons, FieldTypes.get?_cons,
      FieldTypes.get?_filter (fun k => decide (k < n)), ih hfs (hg.filter _),
      FieldTypes.get?_filter (fun k => decide (n < k))]
    rcases lt_trichotomy name n with hlt | rfl | hgt
    · have hnone : FieldTypes.get? fs name = none :=
        Field.Ascending.get?_eq_none (fun k hk => hlt.trans (hn k hk))
      simp only [hlt, hlt.asymm, hlt.ne', hnone, decide_true, decide_false, if_true, if_false,
        Option.merge_none_left, Option.or_none, Bool.false_eq_true]
    · cases gs.get? name <;> simp only [lt_irrefl, decide_false, Bool.false_eq_true, if_false,
        if_true, Option.none_or, Option.elim_none, Option.elim_some, Option.merge_none_right,
        Option.merge_some_some]
    · simp only [hgt, hgt.asymm, hgt.ne, decide_true, decide_false, Bool.false_eq_true, if_true,
        if_false, Option.none_or]

theorem ascending_joinFields {fs gs : List Field} (hf : Field.Ascending fs)
    (hg : Field.Ascending gs) : Field.Ascending (joinFields fs gs) := by
  induction fs generalizing gs with
  | nil => exact hg
  | cons f fs ih =>
    obtain ⟨n, t⟩ := f
    obtain ⟨hn, hfs⟩ := Field.ascending_cons.1 hf
    have hgt := hg.filter (fun g => decide (n < g.1))
    have hbehind : ∀ k ∈ joinFields fs (gs.filter (fun g => decide (n < g.1))), n < k.1 := by
      intro k hk
      -- A name not behind `n` is on neither side, so nothing is found under it.
      by_contra hkn
      have hfnone : FieldTypes.get? fs k.1 = none :=
        Field.Ascending.get?_eq_none (fun j hj => lt_of_le_of_lt (not_lt.1 hkn) (hn j hj))
      have hnone := get?_joinFields hfs hgt k.1
      rw [hfnone, FieldTypes.get?_filter (fun m => decide (n < m)), decide_eq_false hkn] at hnone
      exact FieldTypes.get?_eq_none_iff.1 hnone (FieldTypes.mem_names_of_mem hk)
    rw [joinFields_cons hg]
    refine List.pairwise_append.2 ⟨hg.filter _, Field.ascending_cons.2 ⟨hbehind, ih hfs hgt⟩, ?_⟩
    intro k hk j hj
    have hkn : k.1 < n := by simpa only [decide_eq_true_eq] using (List.mem_filter.1 hk).2
    rcases List.mem_cons.1 hj with rfl | hj
    · exact hkn
    · exact hkn.trans (hbehind j hj)

theorem get?_joinFields_eq_some {fs gs : FieldTypes} (hf : Field.Ascending fs)
    (hg : Field.Ascending gs) {name : String} {v : DataType}
    (h : FieldTypes.get? (joinFields fs gs) name = some v) :
    (fs.get? name = some v ∧ gs.get? name = none) ∨ (fs.get? name = none ∧ gs.get? name = some v) ∨
      ∃ t u, fs.get? name = some t ∧ gs.get? name = some u ∧ v = join t u := by
  rw [get?_joinFields hf hg] at h
  cases hft : fs.get? name with
  | none =>
    rw [hft, Option.merge_none_left] at h
    exact Or.inr (Or.inl ⟨rfl, h⟩)
  | some t =>
    cases hgu : gs.get? name with
    | none =>
      rw [hft, hgu] at h
      exact Or.inl ⟨h, rfl⟩
    | some u =>
      rw [hft, hgu] at h
      exact Or.inr (Or.inr ⟨t, u, rfl, rfl, (Option.some.inj h).symm⟩)

theorem WellFormed.join {a b : DataType} (ha : a.WellFormed) (hb : b.WellFormed) :
    (join a b).WellFormed := by
  induction a, b using join_induction with
  | null_left b => rwa [null_join]
  | null_right a => rwa [join_null]
  | same a => rwa [join_self]
  | atoms x y hxy hx hy =>
    rw [join_atom_atom hxy hx hy]
    cases x.commonBound? y <;> trivial
  | arrays e f n m ih =>
    rw [join_array_array, WellFormed]
    exact ih ha.element hb.element
  | structs fs gs ih =>
    rw [join_struct_struct, WellFormed, wellFormedFields_iff]
    have hasc := ascending_joinFields ha.ascending hb.ascending
    refine ⟨hasc, fun k hk => ?_⟩
    have hk' := (FieldTypes.get?_eq_some_iff hasc.distinct).2 hk
    rcases get?_joinFields_eq_some ha.ascending hb.ascending hk' with
      ⟨h, _⟩ | ⟨_, h⟩ | ⟨t, u, ht, hu, h⟩
    · exact ha.of_mem (FieldTypes.mem_of_get?_eq_some h)
    · exact hb.of_mem (FieldTypes.mem_of_get?_eq_some h)
    · rw [h]
      have ht' := FieldTypes.mem_of_get?_eq_some ht
      exact ih _ ht' u (ha.of_mem ht') (hb.of_mem (FieldTypes.mem_of_get?_eq_some hu))
  | conflict a b h =>
    rw [join_of_conflict h]
    trivial

theorem widensTo_join {a b : DataType} (ha : a.WellFormed) (hb : b.WellFormed) :
    a.WidensTo (join a b) ∧ b.WidensTo (join a b) := by
  induction a, b using join_induction with
  | null_left b =>
    rw [null_join]
    exact ⟨WidensTo.null b, WidensTo.refl b⟩
  | null_right a =>
    rw [join_null]
    exact ⟨WidensTo.refl a, WidensTo.null a⟩
  | same a =>
    rw [join_self]
    exact ⟨WidensTo.refl a, WidensTo.refl a⟩
  | atoms x y hxy hx hy =>
    rw [join_atom_atom hxy hx hy]
    cases hc : x.commonBound? y with
    | none => exact ⟨WidensTo.string _, WidensTo.string _⟩
    | some c =>
      obtain ⟨hcx, hcy⟩ := Atom.mem_bounds_of_commonBound? hc
      exact ⟨WidensTo.atom (Atom.widensTo_of_mem_bounds hcx),
        WidensTo.atom (Atom.widensTo_of_mem_bounds hcy)⟩
  | arrays e f n m ih =>
    rw [join_array_array]
    obtain ⟨he, hf⟩ := ih ha.element hb.element
    exact ⟨WidensTo.array he (by simp +contextual), WidensTo.array hf (by simp +contextual)⟩
  | structs fs gs ih =>
    rw [join_struct_struct]
    have hboth : ∀ name t u, FieldTypes.get? fs name = some t → FieldTypes.get? gs name = some u →
        t.WidensTo (join t u) ∧ u.WidensTo (join t u) := by
      intro name t u ht hu
      have ht' := FieldTypes.mem_of_get?_eq_some ht
      exact ih _ ht' u (ha.of_mem ht') (hb.of_mem (FieldTypes.mem_of_get?_eq_some hu))
    constructor
    · refine WidensTo.struct (fieldsWiden_of_get? ha.distinct fun name t ht => ?_)
      rw [get?_joinFields ha.ascending hb.ascending, ht]
      cases hu : FieldTypes.get? gs name with
      | none => exact ⟨t, rfl, WidensTo.refl t⟩
      | some u => exact ⟨join t u, rfl, (hboth name t u ht hu).1⟩
    · refine WidensTo.struct (fieldsWiden_of_get? hb.distinct fun name u hu => ?_)
      rw [get?_joinFields ha.ascending hb.ascending, hu]
      cases ht : FieldTypes.get? fs name with
      | none => exact ⟨u, rfl, WidensTo.refl u⟩
      | some t => exact ⟨join t u, rfl, (hboth name t u ht hu).2⟩
  | conflict a b h =>
    rw [join_of_conflict h]
    exact ⟨WidensTo.string a, WidensTo.string b⟩

theorem eq_string_of_conflict {a b c : DataType} (h : Conflict a b) (hac : a.WidensTo c)
    (hbc : b.WidensTo c) : c = string := by
  cases hac with
  | string => rfl
  | null => exact absurd rfl (by cases b <;> first | exact h.1 | exact h.elim)
  | atom _ =>
    cases hbc with
    | string => rfl
    | null => exact h.elim
    | atom _ => exact h.elim
  | array _ _ =>
    cases hbc with
    | null => exact absurd rfl h.2
    | array _ _ => exact h.elim
  | struct _ =>
    cases hbc with
    | null => exact absurd rfl h.2
    | struct _ => exact h.elim

theorem join_widensTo {a b c : DataType} (ha : a.WellFormed) (hb : b.WellFormed)
    (hc : c.WellFormed) (hac : a.WidensTo c) (hbc : b.WidensTo c) : (join a b).WidensTo c := by
  induction a, b using join_induction generalizing c with
  | null_left b => rwa [null_join]
  | null_right a => rwa [join_null]
  | same a => rwa [join_self]
  | atoms x y hxy hx hy =>
    rw [join_atom_atom hxy hx hy]
    rcases atom_widensTo_iff.1 hac with h | rfl | ⟨z, rfl, hxz⟩
    · exact absurd h hx
    · exact WidensTo.string _
    · rcases atom_widensTo_iff.1 hbc with h | h | ⟨z', hz, hyz⟩
      · exact absurd h hy
      · rw [h]
        exact WidensTo.string _
      · obtain rfl := DataType.atom.inj hz
        obtain ⟨d, hd, hdz⟩ := Atom.commonBound?_of_common hxy hxz hyz
        rw [hd]
        exact WidensTo.atom hdz
  | arrays e f n m ih =>
    rw [join_array_array]
    rcases array_widensTo_iff.1 hac with rfl | ⟨g, k, rfl, he, hn⟩
    · exact WidensTo.string _
    · rcases array_widensTo_iff.1 hbc with h | ⟨g', k', hg, hf, hm⟩
      · cases h
      · obtain ⟨rfl, rfl⟩ := DataType.array.inj hg
        refine WidensTo.array (ih ha.element hb.element hc.element he hf) (fun h => ?_)
        rcases Bool.or_eq_true_iff.1 h with h | h
        · exact hn h
        · exact hm h
  | structs fs gs ih =>
    rw [join_struct_struct]
    rcases struct_widensTo_iff.1 hac with rfl | ⟨hs, rfl, hfh⟩
    · exact WidensTo.string _
    · rcases struct_widensTo_iff.1 hbc with h | ⟨hs', hh, hgh⟩
      · cases h
      · obtain rfl := DataType.struct.inj hh
        have hasc := ascending_joinFields ha.ascending hb.ascending
        refine WidensTo.struct (fieldsWiden_of_get? hasc.distinct fun name v hv => ?_)
        rcases get?_joinFields_eq_some ha.ascending hb.ascending hv with
          ⟨h, _⟩ | ⟨_, h⟩ | ⟨t, u, ht, hu, rfl⟩
        · exact hfh.get? hc.distinct h
        · exact hgh.get? hc.distinct h
        · obtain ⟨w, hw, htw⟩ := hfh.get? hc.distinct ht
          obtain ⟨w', hw', huw⟩ := hgh.get? hc.distinct hu
          obtain rfl := Option.some.inj (hw.symm.trans hw')
          have ht' := FieldTypes.mem_of_get?_eq_some ht
          exact ⟨w, hw, ih _ ht' u (ha.of_mem ht') (hb.of_mem (FieldTypes.mem_of_get?_eq_some hu))
            (hc.of_mem (FieldTypes.mem_of_get?_eq_some hw)) htw huw⟩
  | conflict a b h =>
    rw [eq_string_of_conflict h hac hbc]
    exact WidensTo.string _

end DataType

end TabularSchema
