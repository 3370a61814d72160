import TabularSchema.Proofs.JoinOrder

/-!
# The algebra of the join

Well-formed types form a semilattice under widening, with null at the bottom. The join is its
supremum, so observations can be joined in any grouping and any order.
-/

namespace TabularSchema

/-- A type whose structs all have their fields in order. -/
abbrev WellFormedType := {t : DataType // t.WellFormed}

instance : PartialOrder WellFormedType where
  le a b := a.1.WidensTo b.1
  le_refl a := DataType.WidensTo.refl a.1
  le_trans _ _ _ hab hbc := hab.trans hbc
  le_antisymm a b hab hba := Subtype.ext (hab.antisymm a.2 b.2 hba)

instance : SemilatticeSup WellFormedType where
  sup a b := ⟨a.1.join b.1, a.2.join b.2⟩
  le_sup_left a b := (DataType.widensTo_join a.2 b.2).1
  le_sup_right a b := (DataType.widensTo_join a.2 b.2).2
  sup_le a b c hac hbc := DataType.join_widensTo a.2 b.2 c.2 hac hbc

namespace DataType

mutual

def decWellFormed : (t : DataType) → Decidable t.WellFormed
  | .atom _ => isTrue trivial
  | .array e _ => decWellFormed e
  | .struct fs => decWellFormedFields fs

def decWellFormedFields : (fs : List (String × DataType)) → Decidable (WellFormedFields fs)
  | [] => isTrue trivial
  | (n, t) :: fs =>
    @instDecidableAnd _ _ (decWellFormed t)
      (@instDecidableAnd (∀ f ∈ fs, n < f.1) _ inferInstance (decWellFormedFields fs))

end

instance : DecidablePred WellFormed := decWellFormed

theorem join_comm {a b : DataType} (ha : a.WellFormed) (hb : b.WellFormed) :
    join a b = join b a :=
  congrArg Subtype.val (sup_comm (⟨a, ha⟩ : WellFormedType) ⟨b, hb⟩)

theorem join_assoc {a b c : DataType} (ha : a.WellFormed) (hb : b.WellFormed)
    (hc : c.WellFormed) : join (join a b) c = join a (join b c) :=
  congrArg Subtype.val (sup_assoc (⟨a, ha⟩ : WellFormedType) ⟨b, hb⟩ ⟨c, hc⟩)

theorem join_widensTo_iff {a b c : DataType} (ha : a.WellFormed) (hb : b.WellFormed)
    (hc : c.WellFormed) : (join a b).WidensTo c ↔ a.WidensTo c ∧ b.WidensTo c :=
  sup_le_iff (a := (⟨a, ha⟩ : WellFormedType)) (b := ⟨b, hb⟩) (c := ⟨c, hc⟩)

theorem string_join (a : DataType) : join string a = string := by
  by_cases ha : a = null
  · rw [ha, join_null]
  cases a with
  | atom x =>
    by_cases hx : x = .string
    · rw [hx, join_self]
    · have hnone : Atom.string.commonBound? x = none := rfl
      rw [join_atom_atom (Ne.symm hx) (by decide) (by simpa using ha), hnone]
      rfl
  | array e n => exact join_of_conflict ⟨by decide, ha⟩
  | struct fs => exact join_of_conflict ⟨by decide, ha⟩

/-- The join of well-formed types is commutative, associative and idempotent, null is neutral for
it, and a string absorbs every type. -/
theorem join_algebra (a b c : DataType) (ha : a.WellFormed) (hb : b.WellFormed)
    (hc : c.WellFormed) :
    join a b = join b a ∧ join (join a b) c = join a (join b c) ∧ join a a = a ∧
      join null a = a ∧ join a null = a ∧ join string a = string :=
  ⟨join_comm ha hb, join_assoc ha hb hc, join_self a, null_join a, join_null a, string_join a⟩

/-- The two ways to group a decimal, a float and a date under one name, beside an array whose
elements are only known later. -/
theorem join_algebra_nested :
    join (join (.struct [("k", .decimal)]) (.struct [("k", .float), ("xs", .array .null true)]))
        (.struct [("k", .date), ("xs", .array (.atom ⟨"money", "money"⟩) false)]) =
      join (.struct [("k", .decimal)])
        (join (.struct [("k", .float), ("xs", .array .null true)])
          (.struct [("k", .date), ("xs", .array (.atom ⟨"money", "money"⟩) false)])) :=
  (join_algebra _ _ _ (by decide) (by decide) (by decide)).2.1

/-- Widening is a partial order on well-formed types, and the join of two of them is their least
upper bound in it. -/
theorem join_isLeast_widening (a b : DataType) (ha : a.WellFormed) (hb : b.WellFormed) :
    (a.WidensTo a ∧ (∀ c d : DataType, a.WidensTo c → c.WidensTo d → a.WidensTo d) ∧
      (a.WidensTo b → b.WidensTo a → a = b)) ∧
    (join a b).WellFormed ∧ a.WidensTo (join a b) ∧ b.WidensTo (join a b) ∧
      ∀ c : DataType, c.WellFormed → a.WidensTo c → b.WidensTo c → (join a b).WidensTo c := by
  refine ⟨⟨WidensTo.refl a, fun _ _ => WidensTo.trans, WidensTo.antisymm ha hb⟩, ha.join hb,
    (widensTo_join ha hb).1, (widensTo_join ha hb).2, ?_⟩
  intro c hc hac hbc
  exact join_widensTo ha hb hc hac hbc

/-- A float and a decimal under one name widen to a double, and no narrower struct has both. -/
theorem join_isLeast_widening_diamond :
    (struct [("k", .float)]).WidensTo (join (.struct [("k", .float)]) (.struct [("k", .decimal)])) ∧
      (join (.struct [("k", .float)]) (.struct [("k", .decimal)])).WidensTo
        (.struct [("k", .double), ("z", .date)]) := by
  have hf : (struct [("k", .float)]).WidensTo (.struct [("k", .double), ("z", .date)]) :=
    WidensTo.struct (FieldsWiden.cons List.mem_cons_self
      (WidensTo.atom (Atom.widensTo_of_mem_bounds (by decide))) (FieldsWiden.nil _))
  have hd : (struct [("k", .decimal)]).WidensTo (.struct [("k", .double), ("z", .date)]) :=
    WidensTo.struct (FieldsWiden.cons List.mem_cons_self
      (WidensTo.atom (Atom.widensTo_of_mem_bounds (by decide))) (FieldsWiden.nil _))
  obtain ⟨_, _, hleft, _, hleast⟩ :=
    join_isLeast_widening (.struct [("k", .float)]) (.struct [("k", .decimal)]) (by decide)
      (by decide)
  exact ⟨hleft, hleast _ (by decide) hf hd⟩

end DataType

end TabularSchema
