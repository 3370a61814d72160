import Mathlib.Data.List.Induction
import TabularSchema.Proofs.JoinLaws

/-!
# Merging field types

What one observation keeps, a merge keeps: the types stay well-formed, and the merged fields widen
to given ones exactly when all that went into them does. Observations can be merged first among
themselves and then with others, `merge_merge_nil`; the names come in the same order either way.
-/

namespace TabularSchema.FieldTypes

open DataType

def WellFormed (fs : List Field) : Prop := ∀ f ∈ fs, f.2.WellFormed

theorem WellFormed.nil : WellFormed [] := by simp [WellFormed]

theorem wellFormed_cons {f : Field} {fs : List Field} :
    WellFormed (f :: fs) ↔ f.2.WellFormed ∧ WellFormed fs := List.forall_mem_cons

theorem wellFormed_append {fs gs : List Field} :
    WellFormed (fs ++ gs) ↔ WellFormed fs ∧ WellFormed gs := List.forall_mem_append

theorem WellFormed.of_get? {fs : FieldTypes} (h : WellFormed fs) {name : String} {t : DataType}
    (ht : fs.get? name = some t) : t.WellFormed := h _ (mem_of_get?_eq_some ht)

theorem WellFormed.observe {fs : FieldTypes} (h : WellFormed fs) (name : String) {t : DataType}
    (ht : t.WellFormed) : WellFormed (fs.observe name t) := by
  induction fs with
  | nil => exact wellFormed_cons.2 ⟨ht, WellFormed.nil⟩
  | cons f fs ih =>
    obtain ⟨hf, hfs⟩ := wellFormed_cons.1 h
    rw [FieldTypes.observe]
    by_cases hn : f.1 = name
    · rw [if_pos hn]
      exact wellFormed_cons.2 ⟨hf.join ht, hfs⟩
    · rw [if_neg hn]
      exact wellFormed_cons.2 ⟨hf, ih hfs⟩

theorem WellFormed.merge {fs gs : FieldTypes} (hf : WellFormed fs) (hg : WellFormed gs) :
    WellFormed (fs.merge gs) := by
  induction gs generalizing fs with
  | nil => exact hf
  | cons g gs ih =>
    obtain ⟨h, hgs⟩ := wellFormed_cons.1 hg
    exact ih (hf.observe g.1 h) hgs

theorem widensTo_get?_observe {fs : FieldTypes} (hf : WellFormed fs) (name : String) {t : DataType}
    (ht : t.WellFormed) :
    ∃ v, (fs.observe name t).get? name = some v ∧ t.WidensTo v ∧
      ∀ w, fs.get? name = some w → w.WidensTo v := by
  rw [get?_observe, if_pos rfl]
  cases hw : fs.get? name with
  | none => exact ⟨t, rfl, WidensTo.refl t, by simp⟩
  | some w =>
    obtain ⟨hleft, hright⟩ := widensTo_join (hf.of_get? hw) ht
    refine ⟨w.join t, rfl, hright, ?_⟩
    rintro w' hw'
    obtain rfl := Option.some.inj hw'
    exact hleft

/-- After one more observation, the fields widen to given ones exactly when they did before and the
observation does. -/
theorem fieldsWiden_observe_iff {fs hs : FieldTypes} (hd : fs.Distinct) (hf : WellFormed fs)
    (hhd : hs.Distinct) (hh : WellFormed hs) (name : String) {t : DataType} (ht : t.WellFormed) :
    FieldsWiden (fs.observe name t) hs ↔
      FieldsWiden fs hs ∧ ∃ u, (name, u) ∈ hs ∧ t.WidensTo u := by
  constructor
  · intro h
    obtain ⟨v, hv, htv, hold⟩ := widensTo_get?_observe hf name ht
    obtain ⟨u, hu, hvu⟩ := h.get? hhd hv
    refine ⟨fieldsWiden_of_get? hd fun n w hw => ?_, u, mem_of_get?_eq_some hu, htv.trans hvu⟩
    by_cases hn : name = n
    · subst hn
      exact ⟨u, hu, (hold w hw).trans hvu⟩
    · apply h.get? hhd
      rw [get?_observe, if_neg hn, hw]
  · rintro ⟨hfh, u, hu, htu⟩
    refine fieldsWiden_of_get? (hd.observe name t) (fun n v hv => ?_)
    rw [get?_observe] at hv
    by_cases hn : name = n
    · subst hn
      have hu := (get?_eq_some_iff hhd).2 hu
      rw [if_pos rfl] at hv
      obtain rfl := Option.some.inj hv
      cases hget : fs.get? name with
      | none => exact ⟨u, hu, htu⟩
      | some w =>
        obtain ⟨u', hu', hwu⟩ := hfh.get? hhd hget
        obtain rfl := Option.some.inj (hu.symm.trans hu')
        exact ⟨u, hu, join_widensTo (hf.of_get? hget) ht (hh.of_get? hu) hwu htu⟩
    · rw [if_neg hn] at hv
      exact hfh.get? hhd hv

/-- Merged fields are the least above all that went into them. -/
theorem fieldsWiden_merge_iff {fs gs hs : FieldTypes} (hd : fs.Distinct) (hf : WellFormed fs)
    (hg : WellFormed gs) (hhd : hs.Distinct) (hh : WellFormed hs) :
    FieldsWiden (fs.merge gs) hs ↔ FieldsWiden fs hs ∧ FieldsWiden gs hs := by
  induction gs generalizing fs with
  | nil => simp [FieldsWiden.nil]
  | cons g gs ih =>
    obtain ⟨hgt, hgs⟩ := wellFormed_cons.1 hg
    rw [merge_cons, ih (hd.observe g.1 g.2) (hf.observe g.1 hgt) hgs,
      fieldsWiden_observe_iff hd hf hhd hh g.1 hgt, fieldsWiden_cons_iff, and_assoc]

theorem observe_observe_self {fs : FieldTypes} (hf : WellFormed fs) (name : String)
    {t u : DataType} (ht : t.WellFormed) (hu : u.WellFormed) :
    (fs.observe name t).observe name u = fs.observe name (t.join u) := by
  induction fs with
  | nil => simp [observe]
  | cons f fs ih =>
    obtain ⟨hft, hfs⟩ := wellFormed_cons.1 hf
    by_cases hn : f.1 = name
    · simp [observe, hn, join_assoc hft ht hu]
    · simp [observe, hn, ih hfs]

/-- Observations under different names can change places, unless that makes another one first. -/
theorem observe_comm_of_mem {fs : FieldTypes} {m n : String} (hmn : m ≠ n) (hn : n ∈ fs.names)
    (t u : DataType) : (fs.observe m t).observe n u = (fs.observe n u).observe m t := by
  induction fs with
  | nil => simp at hn
  | cons f fs ih =>
    by_cases hfm : f.1 = m
    · simp [observe, hfm, hmn]
    · by_cases hfn : f.1 = n
      · simp [observe, hfn, Ne.symm hmn]
      · rw [names_cons, List.mem_cons] at hn
        have hn' := hn.resolve_left (Ne.symm hfn)
        simp [observe, hfm, hfn, ih hn']

theorem mem_names_observe (fs : FieldTypes) (name : String) (t : DataType) :
    name ∈ (fs.observe name t).names := by
  rw [names_observe]
  split
  · assumption
  · exact List.mem_append_right _ (List.mem_singleton.2 rfl)

theorem names_subset_observe {fs : FieldTypes} {n : String} (hn : n ∈ fs.names) (m : String)
    (t : DataType) : n ∈ (fs.observe m t).names := by
  rw [names_observe]
  split
  · exact hn
  · exact List.mem_append_left _ hn

theorem observe_merge_of_not_mem {fs gs : FieldTypes} {n : String} (hn : n ∈ fs.names)
    (hg : n ∉ gs.names) (u : DataType) : (fs.merge gs).observe n u = (fs.observe n u).merge gs := by
  induction gs generalizing fs with
  | nil => rfl
  | cons g gs ih =>
    rw [names_cons, List.mem_cons, not_or] at hg
    rw [merge_cons, merge_cons, ih (names_subset_observe hn g.1 g.2) hg.2,
      observe_comm_of_mem (Ne.symm hg.1) hn]

theorem merge_observe {fs gs : FieldTypes} (hf : WellFormed fs) (hd : gs.Distinct)
    (hg : WellFormed gs) (name : String) {t : DataType} (ht : t.WellFormed) :
    fs.merge (gs.observe name t) = (fs.merge gs).observe name t := by
  induction gs generalizing fs with
  | nil => rfl
  | cons g gs ih =>
    obtain ⟨hgname, hgs⟩ := List.nodup_cons.1 hd
    obtain ⟨hgt, hgw⟩ := wellFormed_cons.1 hg
    rw [observe]
    by_cases hn : g.1 = name
    -- The name comes only once in the second part, so nothing merged after it touches its type.
    · rw [if_pos hn, merge_cons, merge_cons, ← observe_observe_self hf g.1 hgt ht, ← hn,
        observe_merge_of_not_mem (mem_names_observe fs g.1 g.2) hgname]
    · rw [if_neg hn, merge_cons, merge_cons, ih (hf.observe g.1 hgt) hgs hgw]

theorem merge_merge_nil {fs gs : FieldTypes} (hf : WellFormed fs) (hg : WellFormed gs) :
    fs.merge (merge [] gs) = fs.merge gs := by
  induction gs using List.reverseRecOn with
  | nil => rfl
  | append_singleton gs g ih =>
    obtain ⟨hgs, hg⟩ := wellFormed_append.1 hg
    have hgt := (wellFormed_cons.1 hg).1
    have hmerged := WellFormed.nil.merge hgs
    rw [merge_append, merge_append, merge_cons, merge_nil, merge_cons, merge_nil,
      merge_observe hf (Distinct.nil.merge gs) hmerged g.1 hgt, ih hgs]

theorem foldl_merge_nil {acc : FieldTypes} {gss : List FieldTypes} (ha : WellFormed acc)
    (hg : WellFormed gss.flatten) :
    (gss.map (merge [])).foldl merge acc = acc.merge gss.flatten := by
  induction gss generalizing acc with
  | nil => rfl
  | cons gs gss ih =>
    rw [List.flatten_cons, wellFormed_append] at hg
    obtain ⟨hgs, hgss⟩ := hg
    rw [List.map_cons, List.foldl_cons, merge_merge_nil ha hgs, ih (ha.merge hgs) hgss,
      List.flatten_cons, merge_append]

theorem names_merge_nil (gs : List Field) : (merge [] gs).names = (gs.map Prod.fst).eraseDups := by
  induction gs using List.reverseRecOn with
  | nil => rfl
  | append_singleton gs g ih =>
    rw [merge_append, merge_cons, merge_nil, names_observe, ih, List.map_append,
      List.eraseDups_append]
    by_cases hg : g.1 ∈ gs.map Prod.fst
    · have hremoved : (List.map Prod.fst [g]).removeAll (gs.map Prod.fst) = [] := by
        simpa [List.removeAll] using hg
      rw [if_pos (List.mem_eraseDups.2 hg), hremoved, List.eraseDups_nil, List.append_nil]
    · have hkept : (List.map Prod.fst [g]).removeAll (gs.map Prod.fst) = [g.1] := by
        simpa [List.removeAll] using hg
      rw [if_neg (fun h => hg (List.mem_eraseDups.1 h)), hkept]
      rfl

theorem observe_of_not_mem {fs : FieldTypes} {name : String} (h : name ∉ fs.names) (t : DataType) :
    fs.observe name t = fs ++ [(name, t)] := by
  induction fs with
  | nil => rfl
  | cons f fs ih =>
    obtain ⟨hne, hmem⟩ : name ≠ f.1 ∧ name ∉ names fs := by simpa [names] using h
    rw [observe, if_neg hne.symm, ih hmem]
    rfl

theorem Distinct.of_append_singleton {fs : FieldTypes} {f : Field}
    (h : Distinct (fs ++ [f])) : fs.Distinct ∧ f.1 ∉ fs.names := by
  rw [Distinct, names, List.map_append] at h
  obtain ⟨hfs, -, hdisjoint⟩ := List.nodup_append.1 h
  exact ⟨hfs, fun hmem => hdisjoint f.1 hmem f.1 (by simp) rfl⟩

theorem merge_nil_of_distinct {gs : FieldTypes} (h : gs.Distinct) : merge [] gs = gs := by
  induction gs using List.reverseRecOn with
  | nil => rfl
  | append_singleton gs g ih =>
    obtain ⟨hgs, hnot⟩ := h.of_append_singleton
    rw [merge_append, ih hgs, merge_cons, merge_nil, observe_of_not_mem hnot]

end TabularSchema.FieldTypes
