import TabularSchema.Proofs.History

/-!
# The algebra of merging

Field types with one well-formed type for each name form a monoid under `FieldTypes.merge`, the
order of the names included. A merge keeps the names of its first part in their places, puts those
that only the second part has behind them, and joins the types that both have; so it is idempotent,
and the order of its parts shows in the order of the names alone. Adding the field types of one
analyzer to another under their names comes to the same.
-/

namespace TabularSchema

namespace FieldTypes

/-- Every name has one type, and a well-formed one. -/
structure Regular (fs : FieldTypes) : Prop where
  distinct : fs.Distinct
  wellFormed : WellFormed fs

instance (fs : FieldTypes) : Decidable fs.Regular :=
  decidable_of_iff (fs.names.Nodup ∧ ∀ f ∈ fs, f.2.WellFormed)
    ⟨fun h => ⟨h.1, h.2⟩, fun h => ⟨h.distinct, h.wellFormed⟩⟩

theorem Regular.merge {fs gs : FieldTypes} (hf : fs.Regular) (hg : gs.Regular) :
    (fs.merge gs).Regular :=
  ⟨hf.distinct.merge gs, hf.wellFormed.merge hg.wellFormed⟩

theorem Distinct.ext {fs gs : FieldTypes} (hf : fs.Distinct) (hg : gs.Distinct)
    (hnames : fs.names = gs.names) (h : ∀ name, fs.get? name = gs.get? name) : fs = gs := by
  rw [hf.eq_map_names, hg.eq_map_names, hnames]
  exact List.map_congr_left fun name _ => by rw [h]

theorem Distinct.perm_of_get? {fs gs : FieldTypes} (hf : fs.Distinct) (hg : gs.Distinct)
    (h : ∀ name, fs.get? name = gs.get? name) : fs.Perm gs := by
  refine (List.perm_ext_iff_of_nodup (List.Nodup.of_map _ hf) (List.Nodup.of_map _ hg)).2 ?_
  rintro ⟨name, t⟩
  rw [← get?_eq_some_iff hf, ← get?_eq_some_iff hg, h]

theorem names_merge (fs : FieldTypes) {gs : FieldTypes} (hg : gs.Distinct) :
    (fs.merge gs).names = fs.names ++ gs.names.filter (· ∉ fs.names) := by
  induction gs generalizing fs with
  | nil => simp
  | cons g gs ih =>
    obtain ⟨hnot, hgs⟩ := List.nodup_cons.1 hg
    rw [merge_cons, ih _ hgs, names_observe, names_cons]
    by_cases hmem : g.1 ∈ fs.names
    · rw [if_pos hmem, List.filter_cons_of_neg (by simpa using hmem)]
    · -- The name just added does not come again, so it removes nothing from the names to come.
      have hsame : (names gs).filter (· ∉ fs.names ++ [g.1]) =
          (names gs).filter (· ∉ fs.names) := by
        refine List.filter_congr fun n hn => ?_
        have hne : n ≠ g.1 := fun e => hnot (e ▸ hn)
        simp [hne]
      rw [if_neg hmem, hsame, List.filter_cons_of_pos (by simpa using hmem), List.append_assoc]
      rfl

theorem get?_merge (fs : FieldTypes) {gs : FieldTypes} (hg : gs.Distinct) (name : String) :
    (fs.merge gs).get? name = Option.merge DataType.join (fs.get? name) (gs.get? name) := by
  induction gs generalizing fs with
  | nil => simp
  | cons g gs ih =>
    obtain ⟨hnot, hgs⟩ := List.nodup_cons.1 hg
    rw [merge_cons, ih _ hgs, get?_observe, get?_cons]
    by_cases hname : g.1 = name
    · have hnone : get? gs name = none := get?_eq_none_iff.2 (hname ▸ hnot)
      rw [if_pos hname, if_pos hname, hnone]
      cases fs.get? name <;> rfl
    · rw [if_neg hname, if_neg hname]

theorem merge_assoc {fs gs hs : FieldTypes} (hf : WellFormed fs) (hg : gs.Regular)
    (hh : WellFormed hs) : (fs.merge gs).merge hs = fs.merge (gs.merge hs) := by
  have hboth : gs.merge hs = merge [] (gs ++ hs) := by
    rw [merge_append, merge_nil_of_distinct hg.distinct]
  calc (fs.merge gs).merge hs = fs.merge (gs ++ hs) := (merge_append fs gs hs).symm
    _ = fs.merge (merge [] (gs ++ hs)) :=
      (merge_merge_nil hf (wellFormed_append.2 ⟨hg.wellFormed, hh⟩)).symm
    _ = fs.merge (gs.merge hs) := by rw [hboth]

theorem merge_self {fs : FieldTypes} (hf : fs.Distinct) : fs.merge fs = fs := by
  refine (hf.merge fs).ext hf ?_ fun name => ?_
  · have hnone : fs.names.filter (· ∉ fs.names) = [] := by simp
    rw [names_merge fs hf, hnone, List.append_nil]
  · rw [get?_merge fs hf]
    cases fs.get? name with
    | none => rfl
    | some t => exact congrArg some (DataType.join_self t)

theorem merge_perm_comm {fs gs : FieldTypes} (hf : fs.Regular) (hg : gs.Regular) :
    (fs.merge gs).Perm (gs.merge fs) := by
  refine (hf.merge hg).distinct.perm_of_get? (hg.merge hf).distinct fun name => ?_
  rw [get?_merge fs hg.distinct, get?_merge gs hf.distinct]
  cases ht : fs.get? name with
  | none => cases gs.get? name <;> rfl
  | some t =>
    cases hu : gs.get? name with
    | none => rfl
    | some u =>
      exact congrArg some (DataType.join_comm (hf.wellFormed.of_get? ht) (hg.wellFormed.of_get? hu))

/-- Merging is associative and idempotent, the empty field types are neutral for it, and merging in
the other order gives the same fields in another order. Merging analyzers merges their field types,
and so does adding the field types of one to the other under their names. -/
theorem merge_ordered_monoid (a b c : FieldTypes) (ha : a.Regular) (hb : b.Regular)
    (hc : c.Regular) :
    (a.merge b).Regular ∧ (a.merge b).merge c = a.merge (b.merge c) ∧
      merge [] a = a ∧ a.merge [] = a ∧ a.merge a = a ∧ (a.merge b).Perm (b.merge a) ∧
      ∀ x y : Analyzer, (x.merge y).fieldTypes = x.fieldTypes.merge y.fieldTypes ∧
        x.addEntries y.fieldTypes.entries =
          ({ x with fieldTypes := (x.merge y).fieldTypes }, .ok ()) := by
  refine ⟨ha.merge hb, merge_assoc ha.wellFormed hb hc.wellFormed,
    merge_nil_of_distinct ha.distinct, merge_nil a, merge_self ha.distinct,
    merge_perm_comm ha hb, fun x y => ⟨by rw [Analyzer.merge_eq], ?_⟩⟩
  rw [Analyzer.merge_eq, Analyzer.addEntries, absorb_entries]

/-- Three maps that share names in different orders, where the types of each shared name differ. -/
theorem merge_ordered_monoid_overlapping :
    let a : FieldTypes := [("k", .integer), ("x", .array .null true)]
    let b : FieldTypes := [("y", .date), ("k", .double)]
    let c : FieldTypes := [("x", .array .string false), ("z", .boolean), ("y", .timestamp)]
    (a.merge b).merge c =
        [("k", .double), ("x", .array .string true), ("y", .timestamp), ("z", .boolean)] ∧
      a.merge (b.merge c) = (a.merge b).merge c ∧ (a.merge b).Perm (b.merge a) ∧
      a.merge b ≠ b.merge a ∧
      (Analyzer.addEntries ⟨.plain, a, 2⟩ b.entries).1.fieldTypes = a.merge b := by
  intro a b c
  obtain ⟨-, hassoc, -, -, -, hperm, hanalyzers⟩ :=
    merge_ordered_monoid a b c (by decide) (by decide) (by decide)
  obtain ⟨hmerge, hadd⟩ := hanalyzers ⟨.plain, a, 2⟩ ⟨.plain, b, 3⟩
  exact ⟨by decide, hassoc.symm, hperm, by decide, by rw [hadd, hmerge]⟩

end FieldTypes

end TabularSchema
