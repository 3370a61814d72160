import TabularSchema.Proofs.History
import TabularSchema.Proofs.InferenceFailures
import TabularSchema.Proofs.LeastBound
import TabularSchema.Proofs.Partition

/-!
# No struct is refused

A join and the type of a value are built from fields that are in order already, so nothing is
checked while they are computed. Here the same is done with the constructor that sorts the fields it
is given and refuses a repeated name: fields are collected by name, joined where a name repeats, and
handed over as they come. Nothing is ever refused, and the results are the same at every level, from
the join of two types to the inference over partitions.
-/

namespace TabularSchema

namespace DataType

/-- The struct of fields in any order, or the failure of a repeated name. -/
def structOrFail (fs : List Field) : Except Failure DataType :=
  match structOf fs with
  | .ok t => .ok t
  | .error e => .error (.duplicateField e.name)

mutual

/-- The join, where every struct is built by the constructor that checks the names. -/
def checkedJoin (a b : DataType) : Except Failure DataType :=
  match tightestCommon? a b with
  | some t => .ok t
  | none =>
    match a, b with
    | .struct fs, .struct gs => do structOrFail (← checkedMerge fs gs)
    | .array e n, .array f m => return .array (← checkedJoin e f) (n || m)
    | _, _ => .ok string
termination_by structural b

def checkedMerge (fs : FieldTypes) : List (String × DataType) → Except Failure FieldTypes
  | [] => .ok fs
  | (name, t) :: gs =>
    match fs.get? name with
    | some u => do checkedMerge (fs.put name (← checkedJoin u t)) gs
    | none => checkedMerge (fs.put name t) gs
termination_by structural gs => gs

end

theorem structOf_of_distinct {fs : FieldTypes} (h : fs.Distinct) :
    structOf fs = .ok (.struct (Field.sort fs)) := by
  have hnone : Field.firstRepeat [] (Field.sort fs) = none :=
    Field.firstRepeat_eq_none (Field.distinct_sort_iff.2 h) (by simp)
  rw [structOf, Field.checkUnique, hnone]
  rfl

theorem structOrFail_of_distinct {fs : FieldTypes} (h : fs.Distinct) :
    structOrFail fs = .ok (.struct (Field.sort fs)) := by
  rw [structOrFail, structOf_of_distinct h]

theorem put_of_get?_eq_some {fs : FieldTypes} {name : String} {u : DataType}
    (h : fs.get? name = some u) (t : DataType) : fs.put name (u.join t) = fs.observe name t := by
  induction fs with
  | nil => cases h
  | cons f fs ih =>
    rw [FieldTypes.get?_cons] at h
    rw [FieldTypes.put, FieldTypes.observe]
    by_cases hf : f.1 = name
    · rw [if_pos hf] at h
      obtain rfl := Option.some.inj h
      rw [if_pos hf, if_pos hf]
    · rw [if_neg hf] at h
      rw [if_neg hf, if_neg hf, ih h]

theorem put_of_get?_eq_none {fs : FieldTypes} {name : String} (h : fs.get? name = none)
    (t : DataType) : fs.put name t = fs.observe name t := by
  induction fs with
  | nil => rfl
  | cons f fs ih =>
    rw [FieldTypes.get?_cons] at h
    rw [FieldTypes.put, FieldTypes.observe]
    by_cases hf : f.1 = name
    · rw [if_pos hf] at h
      cases h
    · rw [if_neg hf] at h
      rw [if_neg hf, if_neg hf, ih h]

/-- The two ways to join structs: sorting what was collected by name, and going through both lists
side by side. -/
theorem sort_merge_eq_joinFields {fs gs : List Field} (hf : (struct fs).WellFormed)
    (hg : (struct gs).WellFormed) : Field.sort (FieldTypes.merge fs gs) = joinFields fs gs := by
  have hfs : FieldTypes.WellFormed fs := fun f hmem => hf.of_mem hmem
  have hgs : FieldTypes.WellFormed gs := fun f hmem => hg.of_mem hmem
  have hsorted : (struct (Field.sort (FieldTypes.merge fs gs))).WellFormed := by
    rw [WellFormed, wellFormedFields_iff]
    refine ⟨Field.ascending_sort (hf.distinct.merge gs), fun f hmem => ?_⟩
    exact hfs.merge hgs f ((Field.sort_perm _).mem_iff.1 hmem)
  have hjoin : (struct (joinFields fs gs)).WellFormed := by
    rw [← join_struct_struct]
    exact hf.join hg
  refine struct.inj (eq_of_widensTo_iff hsorted hjoin fun c hc => ?_)
  rw [← join_struct_struct, join_widensTo_iff hf hg hc, struct_widensTo_iff, struct_widensTo_iff,
    struct_widensTo_iff]
  constructor
  · rintro (rfl | ⟨hs, rfl, h⟩)
    · exact ⟨Or.inl rfl, Or.inl rfl⟩
    · have hhs : FieldTypes.WellFormed hs := fun f hmem => hc.of_mem hmem
      rw [fieldsWiden_sort_iff,
        FieldTypes.fieldsWiden_merge_iff hf.distinct hfs hgs hc.distinct hhs] at h
      exact ⟨Or.inr ⟨hs, rfl, h.1⟩, Or.inr ⟨hs, rfl, h.2⟩⟩
  · rintro ⟨rfl | ⟨hs, rfl, hleft⟩, hright⟩
    · exact Or.inl rfl
    · have hhs : FieldTypes.WellFormed hs := fun f hmem => hc.of_mem hmem
      rcases hright with h | ⟨hs', h, hright⟩
      · cases h
      · obtain rfl := struct.inj h
        refine Or.inr ⟨hs, rfl, ?_⟩
        rw [fieldsWiden_sort_iff,
          FieldTypes.fieldsWiden_merge_iff hf.distinct hfs hgs hc.distinct hhs]
        exact ⟨hleft, hright⟩

theorem checkedMerge_eq_of {fs gs : FieldTypes} (hf : FieldTypes.WellFormed fs)
    (hg : FieldTypes.WellFormed gs)
    (h : ∀ g ∈ gs, ∀ u : DataType, u.WellFormed → checkedJoin u g.2 = .ok (join u g.2)) :
    checkedMerge fs gs = .ok (fs.merge gs) := by
  induction gs generalizing fs with
  | nil => rfl
  | cons g gs ih =>
    obtain ⟨name, t⟩ := g
    obtain ⟨ht, hgs⟩ := FieldTypes.wellFormed_cons.1 hg
    obtain ⟨hjoin, hrest⟩ := List.forall_mem_cons.1 h
    rw [checkedMerge, FieldTypes.merge_cons]
    dsimp only at ht hjoin ⊢
    cases hu : fs.get? name with
    | none =>
      rw [put_of_get?_eq_none hu]
      exact ih (hf.observe name ht) hgs hrest
    | some u =>
      change (checkedJoin u t >>= fun v => checkedMerge (fs.put name v) gs) = _
      rw [hjoin u (hf.of_get? hu)]
      change checkedMerge (fs.put name (u.join t)) gs = _
      rw [put_of_get?_eq_some hu]
      exact ih (hf.observe name ht) hgs hrest

theorem checkedJoin_eq {a b : DataType} (ha : a.WellFormed) (hb : b.WellFormed) :
    checkedJoin a b = .ok (join a b) := by
  induction b using inductionOn generalizing a with
  | atom y =>
    rw [checkedJoin.eq_def, join.eq_def]
    cases tightestCommon? a (.atom y) with
    | some t => rfl
    | none => cases a <;> rfl
  | array f m ih =>
    rw [checkedJoin.eq_def, join.eq_def]
    cases tightestCommon? a (.array f m) with
    | some t => rfl
    | none =>
      cases a with
      | atom x => rfl
      | array e n =>
        dsimp only
        rw [ih ha.element hb.element]
        rfl
      | struct fs => rfl
  | struct gs ih =>
    rw [checkedJoin.eq_def, join.eq_def]
    cases tightestCommon? a (.struct gs) with
    | some t => rfl
    | none =>
      cases a with
      | atom x => rfl
      | array e n => rfl
      | struct fs =>
        have hmerge : checkedMerge fs gs = .ok (FieldTypes.merge fs gs) :=
          checkedMerge_eq_of (fun f hf => ha.of_mem hf) (fun g hg => hb.of_mem hg)
            fun g hg u hu => ih g hg hu (hb.of_mem hg)
        dsimp only
        rw [hmerge]
        change structOrFail (FieldTypes.merge fs gs) = _
        rw [structOrFail_of_distinct (ha.distinct.merge gs), sort_merge_eq_joinFields ha hb]

theorem checkedMerge_eq {fs gs : FieldTypes} (hf : FieldTypes.WellFormed fs)
    (hg : FieldTypes.WellFormed gs) : checkedMerge fs gs = .ok (fs.merge gs) :=
  checkedMerge_eq_of hf hg fun g hmem _ hu => checkedJoin_eq hu (hg g hmem)

end DataType

namespace Value

open DataType (checkedJoin checkedMerge structOrFail)

mutual

def checkedType : Value → Except Failure DataType
  | .seq _ items => do
    let e ← checkedElement none items
    return .array (e.getD .null) (items.any isNull)
  | .map _ entries => do structOrFail (← checkedFields [] entries)
  | v => .ok v.scalarType

def checkedElement (known : Option DataType) : List Value → Except Failure (Option DataType)
  | [] => .ok known
  | v :: vs =>
    if v.isNull then checkedElement known vs
    else do
      let t ← checkedType v
      match known with
      | none => checkedElement (some t) vs
      | some u => checkedElement (some (← checkedJoin u t)) vs

def checkedFields (known : FieldTypes) : List (Value × Value) → Except Failure FieldTypes
  | [] => .ok known
  | (k, v) :: es => do
    let name ← k.fieldName
    let t ← checkedType v
    checkedFields (← checkedMerge known [(name, t)]) es

end

theorem checkedElement_eq {items : List Value} (h : ∀ v ∈ items, v.checkedType = v.inferType)
    {known : Option DataType} (hk : ∀ t ∈ known, t.WellFormed) :
    checkedElement known items = (checkEachNamed items).map fun _ => elementType known items := by
  induction items generalizing known with
  | nil => rfl
  | cons v items ih =>
    obtain ⟨hv, hitems⟩ := List.forall_mem_cons.1 h
    rw [checkedElement, checkEachNamed, elementType]
    by_cases hnull : v.isNull = true
    · have hvn : v = .null := by cases v <;> first | rfl | cases hnull
      rw [if_pos hnull, ih hitems hk, if_pos hnull, hvn]
      rfl
    · rw [if_neg hnull, if_neg hnull, hv, inferType]
      cases hnamed : v.checkNamed with
      | error e => rfl
      | ok u =>
        have hjoined : ∀ t ∈ some (joinElement known v.typeOf), t.WellFormed := by
          intro t ht
          obtain rfl := Option.mem_some.1 ht
          cases known with
          | none => exact v.wellFormed_typeOf
          | some s => exact (hk s rfl).join v.wellFormed_typeOf
        cases known with
        | none => exact ih hitems hjoined
        | some s =>
          change (checkedJoin s v.typeOf >>= fun t => checkedElement (some t) items) = _
          rw [DataType.checkedJoin_eq (hk s rfl) v.wellFormed_typeOf]
          exact ih hitems hjoined

theorem checkedFields_eq {entries : List (Value × Value)}
    (h : ∀ e ∈ entries, e.2.checkedType = e.2.inferType) {known : FieldTypes}
    (hk : FieldTypes.WellFormed known) :
    checkedFields known entries =
      (checkEntriesNamed entries).map fun _ => entryTypes known entries := by
  induction entries generalizing known with
  | nil => rfl
  | cons e entries ih =>
    obtain ⟨key, v⟩ := e
    obtain ⟨hv, hentries⟩ := List.forall_mem_cons.1 h
    rw [checkedFields, checkEntriesNamed, entryTypes]
    rcases fieldName_eq_ok_or_textless key with hname | ⟨fault, hname⟩
    · rw [hname, hv, inferType]
      cases hnamed : v.checkNamed with
      | error e => rfl
      | ok u =>
        have hfield : FieldTypes.WellFormed [(key.plainText, v.typeOf)] :=
          FieldTypes.wellFormed_cons.2 ⟨v.wellFormed_typeOf, FieldTypes.WellFormed.nil⟩
        change (checkedMerge known [(key.plainText, v.typeOf)] >>= fun fs =>
          checkedFields fs entries) = _
        rw [DataType.checkedMerge_eq hk hfield]
        exact ih hentries (hk.observe key.plainText v.wellFormed_typeOf)
    · rw [hname]
      rfl

theorem checkedType_eq_inferType (v : Value) : v.checkedType = v.inferType := by
  induction v using inductionOn with
  | scalar v hv =>
    cases v <;> first | rfl | exact hv.elim
  | seq kind items ih =>
    have hnone : ∀ t ∈ (none : Option DataType), t.WellFormed := by simp
    rw [checkedType, checkedElement_eq ih hnone, inferType, checkNamed, typeOf]
    cases checkEachNamed items <;> rfl
  | map kind entries ih =>
    rw [checkedType, checkedFields_eq ih FieldTypes.WellFormed.nil, inferType, checkNamed, typeOf]
    cases checkEntriesNamed entries with
    | error e => rfl
    | ok u =>
      have hdistinct : FieldTypes.Distinct (entryTypes [] entries) := by
        rw [entryTypes_eq_merge]
        exact FieldTypes.Distinct.nil.merge _
      change structOrFail (entryTypes [] entries) = _
      rw [DataType.structOrFail_of_distinct hdistinct]
      rfl

def checkedEntries (document : Value) : Except Failure (List (Value × DataType)) :=
  match document.entries? with
  | some entries => entries.mapM fun e => do return (e.1, ← e.2.checkedType)
  | none => .error (.notMapping document.kindName)

theorem checkedEntries_eq_typedEntries (document : Value) :
    document.checkedEntries = document.typedEntries := by
  have htype : checkedType = inferType := funext checkedType_eq_inferType
  rw [checkedEntries, htype]
  rfl

end Value

namespace Inference

open DataType (checkedMerge)

def checkedAdd (decoder : Decoder) (fs : FieldTypes) (document : Value) :
    Except Failure FieldTypes := do
  let decoded ← decoder document
  let typed ← decoded.checkedEntries
  typed.foldlM (fun fs e => do checkedMerge fs [(← e.1.fieldName, e.2)]) fs

def checkedAggregate (decoder : Decoder) (documents : List Value) : Except Failure FieldTypes :=
  documents.foldlM (checkedAdd decoder) []

def checkedInfer (p : Plan) (documents : Value) : Except Failure Schema := do
  let ds ← sample documents p.ratio p.seed
  Schema.ofFieldTypes (← checkedAggregate p.decoder ds)

def checkedInferPartitioned (p : Plan) (parts : List (List Value)) : Except Failure Schema := do
  let sampled ← (withSeeds p.seed (parts.map .list)).mapM fun part =>
    sample part.2 p.ratio part.1
  let partials ← sampled.mapM (checkedAggregate p.decoder)
  Schema.ofFieldTypes (← partials.foldlM checkedMerge [])

theorem foldlM_checkedMerge_eq {typed : List (Value × DataType)}
    (ht : ∀ e ∈ typed, e.2.WellFormed) {fs : FieldTypes} (hf : FieldTypes.WellFormed fs) :
    typed.foldlM (fun fs e => do checkedMerge fs [(← e.1.fieldName, e.2)]) fs =
      (typed.mapM Value.namedEntry).map fs.merge := by
  induction typed generalizing fs with
  | nil => rfl
  | cons e typed ih =>
    obtain ⟨he, htyped⟩ := List.forall_mem_cons.1 ht
    rw [List.foldlM_cons, List.mapM_cons, Value.namedEntry]
    cases hname : e.1.fieldName with
    | error failure => rfl
    | ok name =>
      have hfield : FieldTypes.WellFormed [(name, e.2)] :=
        FieldTypes.wellFormed_cons.2 ⟨he, FieldTypes.WellFormed.nil⟩
      change (checkedMerge fs [(name, e.2)] >>= fun fs => List.foldlM _ fs typed) = _
      rw [DataType.checkedMerge_eq hf hfield]
      change List.foldlM _ (fs.observe name e.2) typed = _
      rw [ih htyped (hf.observe name he)]
      cases typed.mapM Value.namedEntry <;> rfl

theorem checkedAdd_eq (decoder : Decoder) {fs : FieldTypes} (hf : FieldTypes.WellFormed fs)
    (document : Value) :
    checkedAdd decoder fs document = (decoder.fields document).map fs.merge := by
  rw [checkedAdd]
  cases hd : decoder document with
  | error e =>
    rw [Decoder.fields_of_decode_error hd]
    rfl
  | ok decoded =>
    rw [Decoder.fields_of_decoded hd, Value.observations]
    change (decoded.checkedEntries >>= _) = _
    rw [Value.checkedEntries_eq_typedEntries]
    cases htyped : decoded.typedEntries with
    | error e => rfl
    | ok typed => exact foldlM_checkedMerge_eq (Value.wellFormed_typedEntries htyped) hf

theorem checkedAggregate_eq_aggregate (decoder : Decoder) (documents : List Value) :
    checkedAggregate decoder documents = aggregate decoder documents := by
  have hfold (documents : List Value) {fs : FieldTypes} (hf : FieldTypes.WellFormed fs) :
      documents.foldlM (checkedAdd decoder) fs =
        (documents.mapM decoder.fields).map fun gss => fs.merge gss.flatten := by
    induction documents generalizing fs with
    | nil => rfl
    | cons d ds ih =>
      rw [List.foldlM_cons, List.mapM_cons, checkedAdd_eq decoder hf]
      cases hd : decoder.fields d with
      | error e => rfl
      | ok gs =>
        change List.foldlM _ (fs.merge gs) ds = _
        rw [ih (hf.merge (Decoder.wellFormed_fields hd))]
        cases ds.mapM decoder.fields with
        | error e => rfl
        | ok gss => exact congrArg Except.ok (FieldTypes.merge_append fs gs gss.flatten).symm
  rw [checkedAggregate, hfold documents FieldTypes.WellFormed.nil, aggregate_eq]

theorem wellFormed_of_aggregate {decoder : Decoder} {documents : List Value} {fs : FieldTypes}
    (h : aggregate decoder documents = .ok fs) : FieldTypes.WellFormed fs := by
  rw [aggregate_eq] at h
  obtain ⟨gss, hgss, rfl⟩ := map_eq_ok_iff.1 h
  exact FieldTypes.WellFormed.nil.merge (wellFormed_of_mapM_fields hgss)

theorem foldlM_checkedMerge_partials {fss : List FieldTypes}
    (h : ∀ fs ∈ fss, FieldTypes.WellFormed fs) {acc : FieldTypes}
    (ha : FieldTypes.WellFormed acc) :
    fss.foldlM checkedMerge acc = .ok (fss.foldl FieldTypes.merge acc) := by
  induction fss generalizing acc with
  | nil => rfl
  | cons fs fss ih =>
    obtain ⟨hf, hfss⟩ := List.forall_mem_cons.1 h
    rw [List.foldlM_cons, DataType.checkedMerge_eq ha hf]
    exact ih hfss (ha.merge hf)

theorem checkedInfer_eq_infer (p : Plan) (documents : Value) :
    checkedInfer p documents = infer p documents := by
  unfold checkedInfer infer
  simp only [checkedAggregate_eq_aggregate]

/-- Partitions that are lists can all be opened, so it makes no difference when they are. -/
theorem inferPartitioned_eq_together (p : Plan) (concurrent : Bool) (parts : List (List Value)) :
    inferPartitioned p concurrent (.list (parts.map .list)) = (do
      let partials ← aggregateTogether p (withSeeds p.seed (parts.map .list))
      Schema.ofFieldTypes (partials.foldl FieldTypes.merge [])) := by
  have hturn : aggregateInTurn p (withSeeds p.seed (parts.map .list)) =
      aggregateTogether p (withSeeds p.seed (parts.map .list)) := by
    cases hr : Sampling.acceptRatio p.ratio with
    | ok r => rw [aggregateInTurn_eq hr, aggregateTogether_eq hr]
    | error e =>
      cases parts with
      | nil => rfl
      | cons ds parts =>
        rw [List.map_cons, aggregateInTurn_of_refused hr, aggregateTogether_of_refused hr]
  unfold inferPartitioned
  dsimp only [Value.list, Value.elements, bind, Except.bind] at hturn ⊢
  rw [hturn, ite_self]

theorem checkedInferPartitioned_eq (p : Plan) (concurrent : Bool) (parts : List (List Value)) :
    checkedInferPartitioned p parts = inferPartitioned p concurrent (.list (parts.map .list)) := by
  rw [inferPartitioned_eq_together, checkedInferPartitioned, aggregateTogether, bind_assoc]
  congr 1
  funext sampled
  have haggregate : checkedAggregate p.decoder = aggregate p.decoder :=
    funext (checkedAggregate_eq_aggregate p.decoder)
  rw [haggregate]
  cases hpartials : sampled.mapM (aggregate p.decoder) with
  | error e => rfl
  | ok partials =>
    have hwell : ∀ fs ∈ partials, FieldTypes.WellFormed fs := by
      intro fs hfs
      obtain ⟨ds, -, hds⟩ := exists_of_mapM_eq_ok hpartials fs hfs
      exact wellFormed_of_aggregate hds
    change (partials.foldlM checkedMerge [] >>= Schema.ofFieldTypes) = _
    rw [foldlM_checkedMerge_partials hwell FieldTypes.WellFormed.nil]
    rfl

/-- A failure of a repeated name is one of the decoder. -/
def RefusedByDecoder (decoder : Decoder) (e : Failure) : Prop :=
  ∀ name, e = .duplicateField name → ∃ document, decoder document = .error e

theorem Plan.Faults.refusedByDecoder {p : Plan} {e : Failure} (h : p.Faults e) :
    RefusedByDecoder p.decoder e := by
  rintro name rfl
  cases h with
  | ratio h => exact nomatch (Sampling.failsWithin_acceptRatio p.ratio).of_eq_error h
  | document h =>
    obtain ⟨d, -, hd⟩ := h.resolve_right nofun
    exact ⟨d, hd⟩

/-- Every value all of whose keys have texts has a type, and all structs in it have their fields in
order; so has the join of two such types. Built by the constructor that refuses a repeated name, the
type, the join, merged field types and inferred schemas are the same, so that constructor never
refuses anything, and neither does that of schemas. -/
theorem no_struct_refused (v : Value) (a b : DataType) (fs gs : FieldTypes) (p : Plan)
    (documents : List Value) (concurrent : Bool) (parts : List (List Value)) :
    (v.checkedType = v.inferType ∧ (v.Named → ∃ t, v.inferType = .ok t ∧ t.WellFormed) ∧
      (¬ v.Named → ∃ fault, v.inferType = .error (.textless fault))) ∧
    (a.WellFormed → b.WellFormed →
      a.checkedJoin b = .ok (a.join b) ∧ (a.join b).WellFormed) ∧
    (FieldTypes.WellFormed fs → FieldTypes.WellFormed gs →
      checkedMerge fs gs = .ok (fs.merge gs) ∧ FieldTypes.WellFormed (fs.merge gs)) ∧
    (checkedInfer p (.list documents) = infer p (.list documents) ∧
      FailsWithin (RefusedByDecoder p.decoder) (infer p (.list documents))) ∧
    (checkedInferPartitioned p parts = inferPartitioned p concurrent (.list (parts.map .list)) ∧
      FailsWithin (RefusedByDecoder p.decoder)
        (inferPartitioned p concurrent (.list (parts.map .list)))) := by
  refine ⟨⟨v.checkedType_eq_inferType, fun hv => ?_, fun hv => ?_⟩, fun ha hb => ?_,
    fun hf hg => ?_, ?_, ?_⟩
  · rcases v.inferType_ok_or_textless with ⟨_, h⟩ | ⟨hnot, _⟩
    · exact ⟨v.typeOf, h, v.wellFormed_typeOf⟩
    · exact absurd hv hnot
  · rcases v.inferType_ok_or_textless with ⟨hnamed, _⟩ | ⟨_, h⟩
    · exact absurd hnamed hv
    · exact h
  · exact ⟨DataType.checkedJoin_eq ha hb, ha.join hb⟩
  · exact ⟨DataType.checkedMerge_eq hf hg, hf.merge hg⟩
  · exact ⟨checkedInfer_eq_infer p _,
      (failsWithin_infer p _).mono fun _ h => h.refusedByDecoder⟩
  · exact ⟨checkedInferPartitioned_eq p concurrent parts,
      (failsWithin_inferPartitioned p _ _).mono fun _ h => h.refusedByDecoder⟩

/-- The keys `1` and `"1"` name one field, and a joined struct gets a field between two others. -/
theorem no_struct_refused_colliding :
    let v : Value := .map .plain [(.text "b", .list [.map .readOnly [], .null]),
      (.int .plain 1, .bool true), (.text "1", .null)]
    let a : DataType := .struct [("a", .long), ("z", .array .null true)]
    let b : DataType := .struct [("a", .decimal), ("m", .struct []), ("z", .array .date false)]
    v.checkedType = .ok (.struct [("1", .boolean), ("b", .array (.struct []) true)]) ∧
      a.checkedJoin b =
        .ok (.struct [("a", .decimal), ("m", .struct []), ("z", .array .date true)]) ∧
      checkedMerge [("k", a)] [("j", b), ("k", b)] = .ok [("k", a.join b), ("j", b)] ∧
      (∃ t, v.inferType = .ok t ∧ t.WellFormed) := by
  intro v a b
  have ha : a.WellFormed := by decide
  have hb : b.WellFormed := by decide
  have hleft : FieldTypes.WellFormed [("k", a)] := by simpa [FieldTypes.WellFormed] using ha
  have hright : FieldTypes.WellFormed [("j", b), ("k", b)] := by
    simpa [FieldTypes.WellFormed] using hb
  obtain ⟨⟨hchecked, hnamed, -⟩, hjoin, hmerge, -, -⟩ :=
    no_struct_refused v a b [("k", a)] [("j", b), ("k", b)] .full [v] false [[v], [v]]
  refine ⟨?_, ?_, ?_, hnamed (by decide)⟩
  · rw [hchecked]
    decide +kernel
  · rw [(hjoin ha hb).1]
    decide +kernel
  · rw [(hmerge hleft hright).1]
    decide +kernel

/-- A list of a mapping and an integer holds strings whatever the key is, but it has no type where
the key has no text. -/
theorem inferType_fails_below_field :
    let document : Value := .map .plain
      [(.text "a", .list [.map .plain [(.wrapped .fixed [0], .int .plain 1)], .int .plain 5])]
    document.typeOf = .struct [("a", .array .string false)] ∧
      document.inferType = .error (.textless (.notText "bytes")) := by
  decide +kernel

end Inference

end TabularSchema
