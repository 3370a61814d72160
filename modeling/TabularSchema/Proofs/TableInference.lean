import TabularSchema.Proofs.Aggregation
import TabularSchema.Proofs.SettingsValidation
import TabularSchema.Service

/-!
# The schema of a table is that of its items

A scan delivers the items of the pages one after another, up to the limit. If the pages it needs for
that can be read, and the items on them too, then analyzing a table is inferring the schema of the
list of its first items: neither the pages they come on nor the page size matter, and the tool for
tables answers as the tool for documents does.
-/

namespace TabularSchema

def Page.contents : Page → Except Failure (List Value)
  | .items v => v.elements
  | .blank => .ok []
  | .refused code text => .error (.service code text)

namespace Scan

/-- The first `n` items of the pages are the given ones. The pages up to the one that completes
them can be read; about those behind it nothing is said. -/
def FirstItems (pages : List Page) (n : Nat) (items : List Value) : Prop :=
  ∃ before after contents, pages = before ++ after ∧ before.mapM Page.contents = .ok contents ∧
    (after = [] ∨ n ≤ contents.flatten.length) ∧ items = contents.flatten.take n

theorem deliver_eq {n : Nat} {vs items : List Value}
    (h : (vs.take n).mapM Item.ofWire = .ok items) :
    deliver (some n) vs = (items, none, some (n - vs.length)) := by
  induction vs generalizing n items with
  | nil =>
    rw [List.take_nil] at h
    obtain rfl := Except.ok.inj h
    rfl
  | cons v vs ih =>
    cases n with
    | zero =>
      obtain rfl := Except.ok.inj h
      simp [deliver, satisfied]
    | succ n =>
      rw [List.take_succ_cons] at h
      obtain ⟨item, rest, hitem, hrest, rfl⟩ := mapM_cons_eq_ok_iff.1 h
      have hdeliver := ih hrest
      simp [deliver, satisfied, lessOne, hitem, hdeliver]

theorem readPages_eq {before after : List Page} {contents : List (List Value)} {n : Nat}
    {items : List Value} (hbefore : before.mapM Page.contents = .ok contents)
    (henough : after = [] ∨ n ≤ contents.flatten.length)
    (hitems : (contents.flatten.take n).mapM Item.ofWire = .ok items) :
    ∃ pagesRead, readPages (some n) (before ++ after) = (items, none, pagesRead) := by
  induction before generalizing n contents items with
  | nil =>
    rw [List.mapM_nil] at hbefore
    obtain rfl := Except.ok.inj hbefore
    rw [List.flatten_nil, List.take_nil] at hitems
    obtain rfl := Except.ok.inj hitems
    cases after with
    | nil => exact ⟨0, rfl⟩
    | cons page after =>
      have hzero : n = 0 := by simpa using henough
      exact ⟨0, by simp [readPages, satisfied, hzero]⟩
  | cons page before ih =>
    obtain ⟨vs, rest, hpage, hrest, rfl⟩ := mapM_cons_eq_ok_iff.1 hbefore
    by_cases hzero : n = 0
    · subst hzero
      obtain rfl := Except.ok.inj hitems
      exact ⟨0, by simp [readPages, satisfied]⟩
    · have hwanted : satisfied (some n) = false := by simp [satisfied, hzero]
      rw [List.flatten_cons, List.take_append] at hitems
      obtain ⟨here, there, hhere, hthere, rfl⟩ := mapM_append_eq_ok_iff.1 hitems
      have hmore : after = [] ∨ n - vs.length ≤ rest.flatten.length := by
        rcases henough with hnil | hle
        · exact Or.inl hnil
        · rw [List.flatten_cons, List.length_append] at hle
          exact Or.inr (by omega)
      obtain ⟨pagesRead, hread⟩ := ih hrest hmore hthere
      cases page with
      | refused code text => cases hpage
      | blank =>
        obtain rfl := Except.ok.inj hpage
        rw [List.take_nil] at hhere
        obtain rfl := Except.ok.inj hhere
        refine ⟨pagesRead + 1, ?_⟩
        rw [List.length_nil, Nat.sub_zero] at hread
        simp [readPages, hwanted, hread]
      | items v =>
        have helements : v.elements = .ok vs := hpage
        refine ⟨pagesRead + 1, ?_⟩
        simp [readPages, hwanted, helements, deliver_eq hhere, hread]

theorem run_eq {pages : List Page} {n : Nat} (hn : 0 < n) {raw items : List Value}
    (hpages : FirstItems pages n raw) (hitems : raw.mapM Item.ofWire = .ok items) (r : Request) :
    (run r (some pages) (some n)).items = items ∧
      (run r (some pages) (some n)).failure = none := by
  obtain ⟨before, after, contents, rfl, hbefore, henough, rfl⟩ := hpages
  obtain ⟨pagesRead, hread⟩ := readPages_eq hbefore henough hitems
  have hwanted : satisfied (some n) = false := by
    simp [satisfied, Nat.pos_iff_ne_zero.1 hn]
  simp [run, hwanted, hread]

theorem limitOf_of_integer {v : Value} {n : Int} (hv : Attribute.integer? v = some n) (hn : 0 ≤ n)
    (hmax : n < 2 ^ 63) : limitOf v = .ok (some n.toNat) := by
  have hlimit : 0 ≤ n ∧ n ≤ maxLimit := by
    unfold maxLimit
    omega
  have hnull : v ≠ .null := by
    rintro rfl
    cases hv
  unfold limitOf
  split
  · exact absurd rfl hnull
  · rw [hv]
    simp [hlimit]

end Scan

namespace InferenceSettings

theorem Usable.acceptRatio {s : InferenceSettings} (h : s.Usable) :
    Sampling.acceptRatio (Table.plan s).ratio = .ok s.ratio.toDecimal := by
  have hunit : Sampling.inUnitInterval s.ratio.toDecimal = true := h
  simp [Table.plan, Sampling.acceptRatio, Value.number?, Value.isDecimal, hunit]

theorem Usable.of_settingsFor [BoundCheck] (hsound : BoundCheck.Sound) {s s' : InferenceSettings}
    (hs : s.Usable) {ratio : Value} (h : Service.settingsFor s ratio = .ok s') :
    s'.Usable ∧ s' = { s with ratio := s'.ratio } := by
  unfold Service.settingsFor at h
  split at h
  · obtain rfl := Except.ok.inj h
    exact ⟨hs, rfl⟩
  · next ratio _ =>
    unfold Settings.accept at h
    split at h
    · next s'' hvalid =>
      obtain rfl := Except.ok.inj h
      exact ⟨Usable.of_validate hsound hvalid, eq_withRatio hvalid⟩
    · cases h

end InferenceSettings

namespace Table

theorem examine_schema (r : Scan.Request) (pages : Pages) (limit : Option Nat) (ratio : Decimal)
    (seed : Int) :
    (examine r pages limit ratio seed).schema =
      (Analyzer.new .plain).addAll (Sampling.sample ratio seed (Scan.run r pages limit).items) >>=
        schemaOf (Scan.run r pages limit) := by
  have hfst := Inference.examine_fst (.new .plain)
    (Sampling.mark ratio seed (Scan.run r pages limit).items)
  rw [Sampling.sample, ← hfst]
  unfold examine
  dsimp only
  split
  · next a asked hexamine =>
    rw [hexamine]
    rfl
  · next e asked hexamine =>
    rw [hexamine]
    rfl

theorem schemaOf_of_complete {o : Scan.Outcome} (h : o.failure = none) :
    schemaOf o = Analyzer.schema := by
  funext a
  rw [schemaOf, h]

theorem analyze_schema {s : InferenceSettings} (hs : s.Usable) (hpos : 0 < s.maxRecords)
    (hmax : s.maxRecords < 2 ^ 63) {pages : List Page} {raw items : List Value}
    (hpages : Scan.FirstItems pages s.maxRecords.toNat raw)
    (hitems : raw.mapM Item.ofWire = .ok items) (table : String) (f : Filter) :
    (analyze s table f (some pages)).schema = Inference.infer (plan s) (.list items) := by
  have hn : 0 < s.maxRecords.toNat := by omega
  obtain ⟨hrun, hfailure⟩ := Scan.run_eq hn hpages hitems (request s table f)
  have hlimit : Scan.limitOf (request s table f).limit = .ok (some s.maxRecords.toNat) :=
    Scan.limitOf_of_integer rfl hpos.le hmax
  have hanalyze : analyze s table f (some pages) =
      examine (request s table f) (some pages) (some s.maxRecords.toNat) s.ratio.toDecimal
        s.seed := by
    unfold analyze
    dsimp only
    rw [hlimit, hs.acceptRatio]
    rfl
  rw [hanalyze, examine_schema, hrun, schemaOf_of_complete hfailure,
    Inference.infer_list hs.acceptRatio, Inference.aggregate]
  change _ = Except.map _ ((Analyzer.new .plain).addAll
    (Sampling.sample s.ratio.toDecimal s.seed items)) >>= _
  cases (Analyzer.new .plain).addAll (Sampling.sample s.ratio.toDecimal s.seed items) <;> rfl

end Table

namespace Service

/-- The tool for tables answers as the tool for documents does on the first items of the table. -/
theorem answer_inferTable {w : World} {st : State} {table : String} {clock : Value}
    {session : SessionId × SessionPool} (hs : st.settings.inference.Usable)
    (hpos : 0 < st.settings.inference.maxRecords) (hmax : st.settings.inference.maxRecords < 2 ^ 63)
    {pages : List Page} {raw items : List Value} (htable : w.pages table = some pages)
    (hpages : Scan.FirstItems pages st.settings.inference.maxRecords.toNat raw)
    (hitems : raw.mapM Item.ofWire = .ok items)
    (hsession : st.sessions.acquire w.knowsProfile st.settings.account clock = .ok session)
    (ratio filter : Value) :
    (perform w st (.inferTable table ratio filter clock)).2 =
      (perform w st (.inferDocuments (.list items) ratio)).2 := by
  simp only [perform, inferTable, inferDocuments]
  cases hsettings : settingsFor st.settings.inference ratio with
  | error e => rfl
  | ok s =>
    obtain ⟨husable, hsame⟩ := hs.of_settingsFor .standard hsettings
    have hmaxRecords : s.maxRecords = st.settings.inference.maxRecords := by rw [hsame]
    rw [← hmaxRecords] at hpos hmax hpages
    rw [hsession, htable]
    dsimp only
    rw [Table.analyze_schema husable hpos hmax hpages hitems]
    change _ = Inference.infer (Table.plan s) (.list items) >>= _
    cases Inference.infer (Table.plan s) (.list items) <;> rfl

end Service

namespace Table

/-- The schema of a table is that of its first items as documents, however the items are spread over
pages and whatever the page size, and both tools give the same answer for them. -/
theorem analyze_eq_infer_items (s : InferenceSettings) (hs : s.Usable) (hpos : 0 < s.maxRecords)
    (hmax : s.maxRecords < 2 ^ 63) (pages : List Page) (raw items : List Value)
    (hpages : Scan.FirstItems pages s.maxRecords.toNat raw)
    (hitems : raw.mapM Item.ofWire = .ok items) :
    (∀ table f, (analyze s table f (some pages)).schema =
      Inference.infer ⟨.float .double s.ratio, s.seed, .plain⟩ (.list items)) ∧
    (∀ table f pageSize pages', Scan.FirstItems pages' s.maxRecords.toNat raw →
      (analyze { s with pageSize := pageSize } table f (some pages')).schema =
        (analyze s table f (some pages)).schema) ∧
    (∀ w st table ratio filter clock session, st.settings.inference = s →
      w.pages table = some pages →
      st.sessions.acquire w.knowsProfile st.settings.account clock = .ok session →
      (Service.perform w st (.inferTable table ratio filter clock)).2 =
        (Service.perform w st (.inferDocuments (.list items) ratio)).2) := by
  have hschema := analyze_schema hs hpos hmax hpages hitems
  refine ⟨hschema, fun table f pageSize pages' hpages' => ?_, ?_⟩
  · have hother := analyze_schema (s := { s with pageSize := pageSize }) hs hpos hmax hpages' hitems
    rw [hother, hschema]
    rfl
  · rintro w st table ratio filter clock session rfl htable hsession
    exact Service.answer_inferTable hs hpos hmax htable hpages hitems hsession ratio filter

theorem analyze_eq_infer_items_spread :
    let s : InferenceSettings := { InferenceSettings.default with maxRecords := 2 }
    let whole := Value.record [("n", .record [("N", .text "1E+3")])]
    let list := Value.record [("n", .record [("L", .list [.record [("NULL", .bool true)]])])]
    let unreadable := Value.record [("n", .record [("Q", .null)])]
    let pages := [Page.items (.list [whole]), .blank, .items (.list []),
      .items (.list [list, unreadable]), .refused "Throttled" "later"]
    let onePage := [Page.items (.list [whole, list, unreadable])]
    ∃ items, [whole, list].mapM Item.ofWire = .ok items ∧
      (analyze s "t" .none (some pages)).schema.isOk = true ∧
      (analyze s "t" .none (some pages)).schema =
        Inference.infer ⟨.float .double s.ratio, s.seed, .plain⟩ (.list items) ∧
      (analyze { s with pageSize := 1 } "t" .none (some onePage)).schema =
        (analyze s "t" .none (some pages)).schema ∧
      (Service.perform ⟨fun _ => true, [("t", pages)]⟩ (.start ⟨.default, s⟩)
        (.inferTable "t" (.text "0.5") .null (.ofInt 0))).2 =
      (Service.perform ⟨fun _ => true, [("t", pages)]⟩ (.start ⟨.default, s⟩)
        (.inferDocuments (.list items) (.text "0.5"))).2 := by
  intro s whole list unreadable pages onePage
  have hok : ([whole, list].mapM Item.ofWire).isOk = true := by decide +kernel
  obtain ⟨items, hitems⟩ := exists_of_isOk hok
  have hpages : Scan.FirstItems pages s.maxRecords.toNat [whole, list] :=
    ⟨pages.take 4, pages.drop 4, [[whole], [], [], [list, unreadable]], rfl, rfl,
      Or.inr (by decide), rfl⟩
  have honePage : Scan.FirstItems onePage s.maxRecords.toNat [whole, list] :=
    ⟨onePage, [], [[whole, list, unreadable]], rfl, rfl, Or.inl rfl, rfl⟩
  obtain ⟨hschema, hspread, htools⟩ := analyze_eq_infer_items s InferenceSettings.Usable.default
    (by decide) (by decide) pages [whole, list] items hpages hitems
  refine ⟨items, hitems, by decide +kernel, hschema _ _, hspread "t" .none 1 onePage honePage, ?_⟩
  exact htools _ (.start ⟨.default, s⟩) "t" (.text "0.5") .null (.ofInt 0)
    (0, ⟨[(⟨"default", none, 0⟩, 0)], [⟨"default", none⟩]⟩) rfl rfl rfl

end Table

end TabularSchema
