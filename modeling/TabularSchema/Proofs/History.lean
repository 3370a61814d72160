import TabularSchema.Proofs.Aggregation
import TabularSchema.Workbench

/-!
# Analyzers and their histories

Each analyzer of a workbench is given a history of the typed fields it has taken in, which the
workbench itself does not keep. Starting afresh empties the history, a document or given types
extend it by one entry, and a merge extends it by the current history of the other analyzer. After
any run of actions an analyzer knows exactly the join by name of its history, although a merge only
hands over what was joined before, and its count is that of the documents in its history.

An action that fails changes nothing, with one exception: a key without a text stops an action among
its fields, and those before it stay.
-/

namespace TabularSchema

namespace FieldTypes

/-- The types observed under a name, in their order. -/
def typesUnder (name : String) (gs : List Field) : List DataType :=
  (gs.filter fun g => g.1 = name).map Prod.snd

/-- Each name in order of first sight, with the running join of all types observed under it. -/
def foldByName (gs : List Field) : FieldTypes :=
  (gs.map Prod.fst).eraseDups.map fun name =>
    (name, (typesUnder name gs).foldl DataType.join .null)

theorem typesUnder_append (name : String) (gs hs : List Field) :
    typesUnder name (gs ++ hs) = typesUnder name gs ++ typesUnder name hs := by
  simp [typesUnder]

theorem getD_get?_merge_nil (gs : List Field) (name : String) :
    ((merge [] gs).get? name).getD .null = (typesUnder name gs).foldl DataType.join .null := by
  induction gs using List.reverseRecOn with
  | nil => rfl
  | append_singleton gs g ih =>
    rw [merge_append, merge_cons, merge_nil, get?_observe, typesUnder_append, List.foldl_append,
      ← ih]
    by_cases hname : g.1 = name
    · have hlast : typesUnder name [g] = [g.2] := by simp [typesUnder, hname]
      rw [if_pos hname, hlast]
      cases (merge [] gs).get? name <;> simp
    · have hlast : typesUnder name [g] = [] := by simp [typesUnder, hname]
      rw [if_neg hname, hlast]
      rfl

theorem Distinct.eq_map_names {fs : FieldTypes} (hd : fs.Distinct) :
    fs = fs.names.map fun name => (name, (fs.get? name).getD .null) := by
  rw [names, List.map_map]
  refine (List.map_id fs).symm.trans (List.map_congr_left fun f hf => ?_)
  have hget : fs.get? f.1 = some f.2 := (get?_eq_some_iff hd).2 hf
  rw [Function.comp_apply, hget]
  rfl

theorem merge_nil_eq_foldByName (gs : List Field) : merge [] gs = foldByName gs := by
  have hmap := (Distinct.nil.merge gs).eq_map_names
  simp only [getD_get?_merge_nil, names_merge_nil] at hmap
  exact hmap

def ofEntry (e : Value × DataType) : Field := (e.1.plainText, e.2)

/-- The fields that typed entries stand for, up to the first key without a text. -/
def namedFields (entries : List (Value × DataType)) : List Field :=
  (entries.takeWhile fun e => e.1.fieldName.isOk).map ofEntry

theorem namedFields_cons_of_ok {key : Value} (hname : key.fieldName = .ok key.plainText)
    (t : DataType) (entries : List (Value × DataType)) :
    namedFields ((key, t) :: entries) = (key.plainText, t) :: namedFields entries := by
  simp [namedFields, ofEntry, hname, Except.isOk, Except.toBool]

theorem namedFields_cons_of_error {key : Value} {e : Failure} (hname : key.fieldName = .error e)
    (t : DataType) (entries : List (Value × DataType)) :
    namedFields ((key, t) :: entries) = [] := by
  simp [namedFields, hname, Except.isOk, Except.toBool]

/-- Entries are taken into account up to the first key without a text, which stops them. -/
theorem absorb_ok_or_textless (fs : FieldTypes) (entries : List (Value × DataType)) :
    fs.absorb entries = (fs.merge (entries.map ofEntry), .ok ()) ∨
      ∃ fault, fs.absorb entries = (fs.merge (namedFields entries), .error (.textless fault)) := by
  induction entries generalizing fs with
  | nil => exact Or.inl rfl
  | cons e entries ih =>
    obtain ⟨key, t⟩ := e
    rw [absorb]
    rcases key.fieldName_eq_ok_or_textless with hname | ⟨fault, hname⟩
    · rw [hname, namedFields_cons_of_ok hname]
      exact ih (fs.observe key.plainText t)
    · rw [hname, namedFields_cons_of_error hname]
      exact Or.inr ⟨fault, rfl⟩

theorem WellFormed.map_ofEntry {entries : List (Value × DataType)}
    (h : ∀ e ∈ entries, e.2.WellFormed) : WellFormed (entries.map ofEntry) :=
  List.forall_mem_map.2 h

theorem WellFormed.namedFields {entries : List (Value × DataType)}
    (h : ∀ e ∈ entries, e.2.WellFormed) : WellFormed (namedFields entries) :=
  WellFormed.map_ofEntry fun e he => h e (List.takeWhile_subset _ he)

end FieldTypes

namespace Value

theorem wellFormed_typedEntries {document : Value} {entries : List (Value × DataType)}
    (h : document.typedEntries = .ok entries) : ∀ e ∈ entries, e.2.WellFormed := by
  cases document with
  | map kind es =>
    rcases typedEntries_map kind es with ⟨_, htyped⟩ | ⟨_, fault, htyped⟩
    · rw [htyped] at h
      obtain rfl := Except.ok.inj h
      exact List.forall_mem_map.2 fun e _ => e.2.wellFormed_typeOf
    · rw [htyped] at h
      cases h
  | _ => cases h

theorem forall_mem_putEntry {α : Type} {P : α → Prop} {key : Value} {value : α}
    {es : List (Value × α)} (hvalue : P value) (hes : ∀ e ∈ es, P e.2) :
    ∀ e ∈ putEntry key value es, P e.2 := by
  induction es with
  | nil => exact List.forall_mem_singleton.2 hvalue
  | cons e es ih =>
    obtain ⟨he, hes⟩ := List.forall_mem_cons.1 hes
    rw [putEntry]
    split
    · exact List.forall_mem_cons.2 ⟨hvalue, hes⟩
    · exact List.forall_mem_cons.2 ⟨he, ih hes⟩

theorem forall_mem_of_foldlM_putEntry {α : Type} {P : α → Prop}
    {pairs acc entries : List (Value × α)} (hpairs : ∀ p ∈ pairs, P p.2) (hacc : ∀ e ∈ acc, P e.2)
    (h : pairs.foldlM (fun es p => do checkHashable p.1; return putEntry p.1 p.2 es) acc =
      Except.ok entries) : ∀ e ∈ entries, P e.2 := by
  induction pairs generalizing acc with
  | nil =>
    obtain rfl := Except.ok.inj h
    exact hacc
  | cons p pairs ih =>
    obtain ⟨hp, hpairs⟩ := List.forall_mem_cons.1 hpairs
    rw [List.foldlM_cons] at h
    cases hhash : checkHashable p.1 with
    | error e =>
      rw [hhash] at h
      cases h
    | ok _ =>
      rw [hhash] at h
      exact ih hpairs (forall_mem_putEntry hp hacc) h

theorem forall_mem_entriesOf {α : Type} {P : α → Prop} {pairs entries : List (Value × α)}
    (hpairs : ∀ p ∈ pairs, P p.2) (h : entriesOf pairs = .ok entries) :
    ∀ e ∈ entries, P e.2 :=
  forall_mem_of_foldlM_putEntry hpairs (List.forall_mem_nil _) h

end Value

namespace Analyzer

/-- An analyzer that takes further fields and documents into account. -/
def extend (a : Analyzer) (gs : List Field) (documents : Nat) : Analyzer :=
  ⟨a.decoder, a.fieldTypes.merge gs, a.documentCount + documents⟩

theorem addEntries_ok_or_textless (a : Analyzer) (entries : List (Value × DataType)) :
    a.addEntries entries = (a.extend (entries.map FieldTypes.ofEntry) 0, .ok ()) ∨
      ∃ fault, a.addEntries entries =
        (a.extend (FieldTypes.namedFields entries) 0, .error (.textless fault)) := by
  rw [addEntries]
  rcases a.fieldTypes.absorb_ok_or_textless entries with habsorb | ⟨fault, habsorb⟩
  · rw [habsorb]
    exact Or.inl rfl
  · rw [habsorb]
    exact Or.inr ⟨fault, rfl⟩

end Analyzer

namespace Workbench

theorem get_put (w : Workbench) (name other : String) (a : Analyzer) :
    (w.put name a).get other = if other = name then a else w.get other := by
  by_cases h : other = name
  · simp [get, put, h]
  · have hne : ¬ name = other := fun e => h e.symm
    rw [if_neg h, get, get, put, List.find?_cons_of_neg (by simpa using hne)]
    congr 2
    rw [List.find?_filter]
    congr 1
    funext p
    by_cases hp : p.1 = other
    · simp [hp, h]
    · simp [hp]

theorem get_step (w : Workbench) (name : String) (action : Action) (other : String) :
    (w.step name action).1.get other =
      if other = name then (w.perform (w.get name) action).1 else w.get other :=
  get_put w name other (w.perform (w.get name) action).1

/-- The typed entries that an action brings to an analyzer; there are none where typing fails. -/
def Action.typed (a : Analyzer) : Action → List (Value × DataType)
  | .add document => (a.decoder document >>= Value.typedEntries).toOption.getD []
  | .addTypes types => (Value.entriesOf types).toOption.getD []
  | _ => []

def Action.WellFormed : Action → Prop
  | .addTypes types => ∀ p ∈ types, p.2.WellFormed
  | _ => True

theorem Action.WellFormed.typed {action : Action} (h : action.WellFormed) (a : Analyzer) :
    ∀ e ∈ action.typed a, e.2.WellFormed := by
  cases action with
  | add document =>
    rw [Action.typed]
    cases hdecoded : a.decoder document with
    | error e => exact List.forall_mem_nil _
    | ok decoded =>
      cases htyped : decoded.typedEntries with
      | error e => simp [bind, Except.bind, htyped, Except.toOption]
      | ok entries =>
        have hentries := Value.wellFormed_typedEntries htyped
        simpa [bind, Except.bind, htyped, Except.toOption] using hentries
  | addTypes types =>
    rw [Action.typed]
    cases hentries : Value.entriesOf types with
    | error e => exact List.forall_mem_nil _
    | ok entries => exact Value.forall_mem_entriesOf h hentries
  | _ => exact List.forall_mem_nil _

/-- How an action fails: the fields named before the failure stay, and there are none unless a key
has no text. -/
def FailsWith (w : Workbench) (a : Analyzer) (action : Action) (e : Failure) : Prop :=
  w.perform a action = (a.extend (FieldTypes.namedFields (action.typed a)) 0, .error e) ∧
    (action.typed a = [] ∨ ∃ fault, e = .textless fault)

/-- An action that takes typed entries into account, if there are any to take, either takes them all
or fails. -/
theorem takes_or_fails {w : Workbench} {a : Analyzer} {action : Action} {documents : Nat}
    {source : Except Failure (List (Value × DataType))}
    (htyped : action.typed a = source.toOption.getD [])
    (hfailed : ∀ e, source = .error e → w.perform a action = (a, .error e))
    (htaken : ∀ entries b, source = .ok entries → a.addEntries entries = (b, .ok ()) →
      w.perform a action = (b.extend [] documents, .ok none))
    (hstopped : ∀ entries b e, source = .ok entries → a.addEntries entries = (b, .error e) →
      w.perform a action = (b, .error e)) :
    w.perform a action = (a.extend ((action.typed a).map FieldTypes.ofEntry) documents, .ok none) ∨
      ∃ e, w.FailsWith a action e := by
  cases hsource : source with
  | error e =>
    have hnone : action.typed a = [] := by rw [htyped, hsource]; rfl
    refine Or.inr ⟨e, ?_, Or.inl hnone⟩
    rw [hfailed e hsource, hnone]
    rfl
  | ok entries =>
    have hentries : action.typed a = entries := by rw [htyped, hsource]; rfl
    rcases a.addEntries_ok_or_textless entries with hadd | ⟨fault, hadd⟩
    · refine Or.inl ?_
      rw [htaken entries _ hsource hadd, hentries]
      simp [Analyzer.extend]
    · refine Or.inr ⟨.textless fault, ?_, Or.inr ⟨fault, rfl⟩⟩
      rw [hstopped entries _ _ hsource hadd, hentries]

theorem perform_add (w : Workbench) (a : Analyzer) (document : Value) :
    w.perform a (.add document) =
        (a.extend ((Action.typed a (.add document)).map FieldTypes.ofEntry) 1, .ok none) ∨
      ∃ e, w.FailsWith a (.add document) e := by
  refine takes_or_fails rfl (fun e h => ?_) (fun entries b h hadd => ?_)
    (fun entries b e h hadd => ?_)
  · simp only [perform, Analyzer.add, h]
    rfl
  · simp only [perform, Analyzer.add, h, hadd]
    rfl
  · simp only [perform, Analyzer.add, h, hadd]
    rfl

theorem perform_addTypes (w : Workbench) (a : Analyzer) (types : List (Value × DataType)) :
    w.perform a (.addTypes types) =
        (a.extend ((Action.typed a (.addTypes types)).map FieldTypes.ofEntry) 0, .ok none) ∨
      ∃ e, w.FailsWith a (.addTypes types) e := by
  refine takes_or_fails rfl (fun e h => ?_) (fun entries b h hadd => ?_)
    (fun entries b e h hadd => ?_)
  · simp only [perform, addTypes, h]
    rfl
  · simp only [perform, addTypes, h, hadd]
    rfl
  · simp only [perform, addTypes, h, hadd]
    rfl

theorem failsWith_of_error {w : Workbench} {a : Analyzer} {action : Action} {e : Failure}
    (h : (w.perform a action).2 = .error e) : w.FailsWith a action e := by
  -- Only one failure can be the answer.
  have hsame : ∀ e', w.FailsWith a action e' → w.FailsWith a action e := by
    intro e' hfails
    rw [hfails.1] at h
    exact Except.error.inj h ▸ hfails
  cases action with
  | add document =>
    rcases perform_add w a document with hok | ⟨e', hfails⟩
    · rw [hok] at h
      cases h
    · exact hsame e' hfails
  | addTypes types =>
    rcases perform_addTypes w a types with hok | ⟨e', hfails⟩
    · rw [hok] at h
      cases h
    · exact hsame e' hfails
  | schema =>
    cases hschema : a.schema with
    | ok s =>
      rw [perform, hschema] at h
      cases h
    | error e' =>
      refine hsame e' ⟨?_, Or.inl rfl⟩
      rw [perform, hschema]
      rfl
  | _ => cases h

end Workbench

/-- What one action left with an analyzer: fields, and whether they are those of a document that
counts. -/
structure HistoryEntry where
  fields : List Field
  isDocument : Bool

/-- What an analyzer has taken in, the oldest first. -/
abbrev History := List HistoryEntry

namespace History

def fields (h : History) : List Field := h.flatMap HistoryEntry.fields

def documents (h : History) : Nat := h.countP HistoryEntry.isDocument

theorem fields_append (h k : History) : (h ++ k).fields = h.fields ++ k.fields :=
  List.flatMap_append

theorem documents_append (h k : History) : (h ++ k).documents = h.documents + k.documents :=
  List.countP_append

/-- What entries leave in a history when a key without a text stops them. -/
def leftBehind (entries : List (Value × DataType)) : History :=
  match FieldTypes.namedFields entries with
  | [] => []
  | g :: gs => [⟨g :: gs, false⟩]

theorem leftBehind_eq_nil {entries : List (Value × DataType)}
    (h : FieldTypes.namedFields entries = []) : leftBehind entries = [] := by
  rw [leftBehind, h]

theorem fields_leftBehind (entries : List (Value × DataType)) :
    (leftBehind entries).fields = FieldTypes.namedFields entries := by
  rw [leftBehind]
  cases FieldTypes.namedFields entries with
  | nil => rfl
  | cons g gs => simp [fields]

theorem documents_leftBehind (entries : List (Value × DataType)) :
    (leftBehind entries).documents = 0 := by
  rw [leftBehind]
  split <;> rfl

structure Describes (h : History) (a : Analyzer) : Prop where
  fieldTypes : a.fieldTypes = FieldTypes.merge [] h.fields
  documentCount : a.documentCount = h.documents
  wellFormed : FieldTypes.WellFormed h.fields

theorem Describes.append {h k : History} {a : Analyzer} (ha : h.Describes a)
    (hk : FieldTypes.WellFormed k.fields) :
    (h ++ k).Describes (a.extend k.fields k.documents) where
  fieldTypes := by rw [Analyzer.extend, fields_append, FieldTypes.merge_append, ← ha.fieldTypes]
  documentCount := by rw [Analyzer.extend, documents_append, ← ha.documentCount]
  wellFormed := by
    rw [fields_append]
    exact FieldTypes.wellFormed_append.2 ⟨ha.wellFormed, hk⟩

theorem Describes.append_given {h : History} {a : Analyzer} (ha : h.Describes a)
    {entries : List (Value × DataType)} (hentries : ∀ e ∈ entries, e.2.WellFormed)
    (isDocument : Bool) :
    Describes (h ++ [⟨entries.map FieldTypes.ofEntry, isDocument⟩])
      (a.extend (entries.map FieldTypes.ofEntry) isDocument.toNat) := by
  have hfields : fields [⟨entries.map FieldTypes.ofEntry, isDocument⟩] =
      entries.map FieldTypes.ofEntry := by simp [fields]
  have hdocuments : documents [⟨entries.map FieldTypes.ofEntry, isDocument⟩] =
      isDocument.toNat := by cases isDocument <;> rfl
  have happend := ha.append (hfields ▸ FieldTypes.WellFormed.map_ofEntry hentries)
  rwa [hfields, hdocuments] at happend

theorem Describes.append_leftBehind {h : History} {a : Analyzer} (ha : h.Describes a)
    {entries : List (Value × DataType)} (hentries : ∀ e ∈ entries, e.2.WellFormed) :
    (h ++ leftBehind entries).Describes (a.extend (FieldTypes.namedFields entries) 0) := by
  have hfields := fields_leftBehind entries
  have happend := ha.append (hfields ▸ FieldTypes.WellFormed.namedFields hentries)
  rwa [hfields, documents_leftBehind] at happend

theorem Describes.merge {h k : History} {a b : Analyzer} (ha : h.Describes a)
    (hb : k.Describes b) : (h ++ k).Describes (a.merge b) := by
  -- `b` hands over its summary; merging it is merging every observation that went into it.
  have hfields : a.fieldTypes.merge b.fieldTypes = a.fieldTypes.merge k.fields := by
    have hwf : FieldTypes.WellFormed a.fieldTypes := by
      rw [ha.fieldTypes]
      exact FieldTypes.WellFormed.nil.merge ha.wellFormed
    rw [hb.fieldTypes, FieldTypes.merge_merge_nil hwf hb.wellFormed]
  have hmerge : a.merge b = a.extend k.fields k.documents := by
    rw [Analyzer.merge_eq, Analyzer.extend, hfields, hb.documentCount]
  exact hmerge ▸ ha.append hb.wellFormed

end History

namespace Workbench

def run (steps : List (String × Action)) : Workbench :=
  steps.foldl (fun w s => (w.step s.1 s.2).1) .empty

/-- A workbench beside the history of each of its analyzers. -/
structure Recorded where
  workbench : Workbench
  histories : String → History

namespace Recorded

/-- The history of an analyzer after an action on it that got an answer. -/
def extended (r : Recorded) (name : String) (action : Action) :
    Except Failure (Option Schema) → History
  | .error _ => r.histories name ++ .leftBehind (action.typed (r.workbench.get name))
  | .ok _ =>
    let given := (action.typed (r.workbench.get name)).map FieldTypes.ofEntry
    match action with
    | .start _ => []
    | .add _ => r.histories name ++ [⟨given, true⟩]
    | .addTypes _ => r.histories name ++ [⟨given, false⟩]
    | .merge source => r.histories name ++ r.histories source
    | .schema | .discardCopy => r.histories name

def step (r : Recorded) (s : String × Action) : Recorded where
  workbench := (r.workbench.step s.1 s.2).1
  histories other :=
    if other = s.1 then r.extended s.1 s.2 (r.workbench.step s.1 s.2).2 else r.histories other

def run (steps : List (String × Action)) : Recorded :=
  steps.foldl step ⟨.empty, fun _ => []⟩

def Agrees (r : Recorded) : Prop := ∀ name, (r.histories name).Describes (r.workbench.get name)

theorem workbench_run (steps : List (String × Action)) :
    (run steps).workbench = Workbench.run steps := by
  induction steps using List.reverseRecOn with
  | nil => rfl
  | append_singleton steps s ih =>
    rw [run, List.foldl_append, Workbench.run, List.foldl_append]
    exact congrArg (fun w => (w.step s.1 s.2).1) ih

theorem agrees_empty : Agrees ⟨.empty, fun _ => []⟩ :=
  fun _ => ⟨rfl, rfl, FieldTypes.WellFormed.nil⟩

theorem Agrees.extended {r : Recorded} (h : r.Agrees) (name : String) {action : Action}
    (haction : action.WellFormed) :
    (r.extended name action (r.workbench.perform (r.workbench.get name) action).2).Describes
      (r.workbench.perform (r.workbench.get name) action).1 := by
  have htyped := haction.typed (r.workbench.get name)
  cases hanswer : (r.workbench.perform (r.workbench.get name) action).2 with
  | error e =>
    rw [(failsWith_of_error hanswer).1]
    exact (h name).append_leftBehind htyped
  | ok schema =>
    cases action with
    | start decoder => exact ⟨rfl, rfl, FieldTypes.WellFormed.nil⟩
    | add document =>
      rcases perform_add r.workbench (r.workbench.get name) document with hok | ⟨e, hfails⟩
      · rw [hok]
        exact (h name).append_given htyped true
      · rw [hfails.1] at hanswer
        cases hanswer
    | addTypes types =>
      rcases perform_addTypes r.workbench (r.workbench.get name) types with hok | ⟨e, hfails⟩
      · rw [hok]
        exact (h name).append_given htyped false
      · rw [hfails.1] at hanswer
        cases hanswer
    | merge source => exact (h name).merge (h source)
    | schema => exact h name
    | discardCopy => exact h name

theorem Agrees.step {r : Recorded} (h : r.Agrees) {s : String × Action}
    (hs : s.2.WellFormed) : (r.step s).Agrees := by
  intro other
  rw [Recorded.step]
  dsimp only
  rw [get_step]
  by_cases hother : other = s.1
  · rw [if_pos hother, if_pos hother]
    exact h.extended s.1 hs
  · rw [if_neg hother, if_neg hother]
    exact h other

theorem agrees_run {steps : List (String × Action)} (hsteps : ∀ s ∈ steps, s.2.WellFormed) :
    (run steps).Agrees := by
  induction steps using List.reverseRecOn with
  | nil => exact agrees_empty
  | append_singleton steps s ih =>
    obtain ⟨hsteps, hs⟩ := List.forall_mem_append.1 hsteps
    rw [run, List.foldl_append]
    exact (ih hsteps).step (hs s (List.mem_singleton.2 rfl))

theorem histories_step_of_error {r : Recorded} {name : String} {action : Action} {e : Failure}
    (h : (r.workbench.step name action).2 = .error e) :
    (r.step (name, action)).histories name =
      r.histories name ++ .leftBehind (action.typed (r.workbench.get name)) := by
  rw [step]
  dsimp only
  rw [if_pos rfl, h]
  rfl

end Recorded

/-- After any actions, every analyzer knows the join by name of its history and counts the documents
in it. An action that fails then changes no other analyzer and no count, and leaves only the fields
that it named before the failure. There are none unless a key has no text, and then everything is as
it was. -/
theorem run_eq_foldByName (steps : List (String × Action))
    (hsteps : ∀ s ∈ steps, s.2.WellFormed) :
    let w := run steps
    let r := Recorded.run steps
    (∀ name, (w.get name).fieldTypes = FieldTypes.foldByName (r.histories name).fields ∧
      (w.get name).documentCount = (r.histories name).documents) ∧
    ∀ name action e, (w.step name action).2 = .error e →
      let left := FieldTypes.namedFields (action.typed (w.get name))
      (∀ other, other ≠ name → (w.step name action).1.get other = w.get other) ∧
      (w.step name action).1.get name = (w.get name).extend left 0 ∧
      ((∀ fault, e ≠ .textless fault) → left = []) ∧
      (left = [] → ∀ other, (w.step name action).1.get other = w.get other ∧
        (r.step (name, action)).histories other = r.histories other) := by
  intro w r
  have hworkbench : r.workbench = w := Recorded.workbench_run steps
  refine ⟨fun name => ?_, fun name action e herror => ?_⟩
  · have hagrees : (r.histories name).Describes (w.get name) :=
      hworkbench ▸ Recorded.agrees_run hsteps name
    rw [← FieldTypes.merge_nil_eq_foldByName]
    exact ⟨hagrees.fieldTypes, hagrees.documentCount⟩
  · intro left
    obtain ⟨hperform, hreason⟩ := failsWith_of_error herror
    have hother : ∀ other, other ≠ name → (w.step name action).1.get other = w.get other :=
      fun other hne => by rw [get_step, if_neg hne]
    have hname : (w.step name action).1.get name = (w.get name).extend left 0 := by
      rw [get_step, if_pos rfl, hperform]
    have hhistory : (r.step (name, action)).histories name =
        r.histories name ++ .leftBehind (action.typed (w.get name)) := by
      rw [Recorded.histories_step_of_error (hworkbench ▸ herror), hworkbench]
    refine ⟨hother, hname, fun he => ?_, fun hnone other => ?_⟩
    · have htyped : action.typed (w.get name) = [] :=
        hreason.resolve_right fun ⟨fault, hfault⟩ => he fault hfault
      simp only [left, htyped]
      rfl
    · by_cases hne : other = name
      · subst hne
        rw [hname, hhistory, hnone, History.leftBehind_eq_nil hnone, List.append_nil]
        exact ⟨rfl, rfl⟩
      · exact ⟨hother other hne, if_neg hne⟩

/-- Two merges, the second of an analyzer into itself, and then a document that is no mapping. -/
theorem run_eq_foldByName_merging :
    let steps : List (String × Action) :=
      [("x", .start .plain), ("x", .add (.map .plain [(.text "a", .int .plain 1)])),
        ("y", .addTypes [(.int .plain 1, .null), (.text "a", .double)]), ("x", .merge "y"),
        ("x", .merge "x")]
    ((run steps).get "x").fieldTypes = FieldTypes.foldByName
      [("a", .integer), ("1", .null), ("a", .double), ("a", .integer), ("1", .null),
        ("a", .double)] ∧
    ((run steps).get "x").documentCount = 2 ∧
    ((run steps).step "x" (.add (.int .plain 5))).1.get "x" = (run steps).get "x" := by
  intro steps
  have hsteps : ∀ s ∈ steps, s.2.WellFormed := by
    simp [steps, Action.WellFormed, DataType.WellFormed, -Prod.forall]
  obtain ⟨hhistory, hfails⟩ := run_eq_foldByName steps hsteps
  obtain ⟨hfields, hcount⟩ := hhistory "x"
  refine ⟨hfields.trans (congrArg _ (by decide +kernel)), hcount.trans (by decide +kernel), ?_⟩
  obtain ⟨_, _, hnone, hsame⟩ := hfails "x" (.add (.int .plain 5)) (.notMapping "int") rfl
  exact (hsame (hnone fun _ h => by cases h) "x").1

/-- A key without a text stops a document halfway: the field before it stays. -/
theorem step_keeps_fields_of_failed_document :
    let w := run [("x", .start .plain)]
    let document : Value :=
      .map .plain [(.text "a", .int .plain 1), (.wrapped .fixed [0], .int .plain 2)]
    (w.step "x" (.add document)).2 = .error (.textless (.notText "bytes")) ∧
      (w.get "x").fieldTypes = [] ∧
      ((w.step "x" (.add document)).1.get "x").fieldTypes = [("a", .integer)] := by
  refine ⟨?_, ?_, ?_⟩
  · rfl
  · rfl
  · decide +kernel

end Workbench

end TabularSchema
