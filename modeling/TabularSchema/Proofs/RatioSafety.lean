import TabularSchema.Proofs.InferenceFailures
import TabularSchema.Proofs.TableInference
import TabularSchema.Settings.Environment

/-!
# No settings that a sampler refuses

Settings are made from given values, from the environment, or from other settings with another
ratio. If bounds are checked soundly, all of them have a ratio in the unit interval, and no other
step of an inference faults a ratio. So neither an analysis of a table nor a tool, after any calls
before, fails because a sampling ratio is out of range. A check that only compares lets a NaN
through, and then neither tool answers.
-/

namespace TabularSchema

def Failure.FaultsRatio : Failure → Prop
  | .ratioOutOfRange _ => True
  | _ => False

abbrev RatioFree {α : Type} (x : Except Failure α) : Prop := FailsWithin (¬ ·.FaultsRatio) x

theorem RatioFree.ne_error {α : Type} {x : Except Failure α} (h : RatioFree x) (text : String) :
    x ≠ .error (.ratioOutOfRange text) := by
  rintro rfl
  exact h trivial

theorem Failure.OfItem.not_faultsRatio {e : Failure} (h : e.OfItem) : ¬ e.FaultsRatio := by
  cases e <;> first | exact id | exact h.elim

namespace Value

theorem ratioFree_length (v : Value) : RatioFree v.length := by
  unfold length
  split <;> first | trivial | exact id

end Value

theorem Failure.OfDocument.not_faultsRatio {e : Failure} (h : e.OfDocument) : ¬ e.FaultsRatio := by
  cases h <;> exact id

theorem Decoder.Faults.not_faultsRatio {documents : List Value} {e : Failure}
    (h : Decoder.plain.Faults documents e) : ¬ e.FaultsRatio := by
  rcases h with ⟨_, -, hd⟩ | h
  · cases hd
  · exact h.not_faultsRatio

theorem Analyzer.ratioFree_addAll (documents : List Value) :
    RatioFree ((Analyzer.new .plain).addAll documents) :=
  (failsWithin_addAll (.new .plain) documents).mono fun _ h => h.not_faultsRatio

theorem Schema.ratioFree_ofFieldTypes (fs : FieldTypes) : RatioFree (ofFieldTypes fs) := by
  unfold ofFieldTypes
  split
  · trivial
  · exact id

theorem Inference.ratioFree_infer {ratio : Value} {r : Decimal}
    (hr : Sampling.acceptRatio ratio = .ok r) (seed : Int) (documents : Value) :
    RatioFree (infer ⟨ratio, seed, .plain⟩ documents) := by
  refine (failsWithin_infer _ documents).mono fun e h => ?_
  cases h with
  | ratio h => exact nomatch hr.symm.trans h
  | elements kind => exact id
  | document h => exact h.not_faultsRatio

namespace Scan

def CutShortBy (e : Failure) : Prop := e.OfItem ∨ ∃ code text, e = .service code text

theorem deliver_failure (demand : Option Nat) (vs : List Value) :
    ∀ e ∈ (deliver demand vs).2.1, e.OfItem := by
  induction vs generalizing demand with
  | nil => simp [deliver]
  | cons v vs ih =>
    rw [deliver]
    split
    · simp
    · cases h : Item.ofWire v with
      | error e =>
        rintro _ ⟨⟩
        exact (Item.failsWithin_ofWire v).of_eq_error h
      | ok item => exact ih (lessOne demand)

theorem readPages_failure (demand : Option Nat) (pages : List Page) :
    ∀ e ∈ (readPages demand pages).2.1, CutShortBy e := by
  induction pages generalizing demand with
  | nil => simp [readPages]
  | cons page pages ih =>
    rw [readPages]
    split
    · simp
    · cases page with
      | refused code text =>
        rintro _ ⟨⟩
        exact Or.inr ⟨code, text, rfl⟩
      | blank => exact ih demand
      | items v =>
        cases h : v.elements with
        | error e =>
          simp only [h]
          rintro _ ⟨⟩
          exact Or.inl (v.ofItem_elements.of_eq_error h)
        | ok vs =>
          have hdeliver := deliver_failure demand vs
          rcases hd : deliver demand vs with ⟨items, failure, rest⟩
          rw [hd] at hdeliver
          cases failure with
          | some e =>
            simp only [h, hd]
            rintro _ ⟨⟩
            exact Or.inl (hdeliver e rfl)
          | none =>
            simp only [h, hd]
            exact ih rest

theorem run_failure (r : Request) (pages : Pages) (demand : Option Nat) :
    ∀ e ∈ (run r pages demand).failure, CutShortBy e := by
  unfold run
  split
  · simp [Outcome.nothing]
  · cases pages with
    | none =>
      rintro _ ⟨⟩
      exact Or.inr ⟨_, _, rfl⟩
    | some pages => exact readPages_failure demand pages

theorem CutShortBy.not_faultsRatio {e : Failure} (h : CutShortBy e) : ¬ e.FaultsRatio := by
  rcases h with h | ⟨code, text, rfl⟩
  · exact h.not_faultsRatio
  · exact id

theorem ratioFree_limitOf (v : Value) : RatioFree (limitOf v) := by
  unfold limitOf
  split
  · trivial
  · split
    · exact id
    · split
      · trivial
      · split <;> exact id

end Scan

namespace Table

theorem ratioFree_schemaOf (r : Scan.Request) (pages : Pages) (limit : Option Nat) (a : Analyzer) :
    RatioFree (schemaOf (Scan.run r pages limit) a) := by
  have hfailure := Scan.run_failure r pages limit
  unfold schemaOf
  split
  · next e he => exact (hfailure e he).not_faultsRatio
  · exact Schema.ratioFree_ofFieldTypes a.fieldTypes

theorem ratioFree_analyze {s : InferenceSettings} (hs : s.Usable) (table : String) (f : Filter)
    (pages : Pages) : RatioFree (analyze s table f pages).schema := by
  have hlimit := Scan.ratioFree_limitOf (request s table f).limit
  unfold analyze
  dsimp only
  rw [hs.acceptRatio]
  cases h : Scan.limitOf (request s table f).limit with
  | error e => exact hlimit.of_eq_error h
  | ok limit =>
    change RatioFree (examine _ pages limit s.ratio.toDecimal s.seed).schema
    rw [examine_schema]
    exact (Analyzer.ratioFree_addAll _).bind (ratioFree_schemaOf _ pages limit)

end Table

theorem SessionPool.ratioFree_acquire (p : SessionPool) (known : String → Bool) (a : Account)
    (clock : Value) : RatioFree (p.acquire known a clock) := by
  have hdecimal (d : Decimal) : RatioFree (Session.windowOfDecimal d) := by
    unfold Session.windowOfDecimal
    split <;> first | exact id | (split <;> first | trivial | exact id)
  have hwindow : RatioFree (Session.windowOf clock) := by
    unfold Session.windowOf
    split
    · trivial
    · trivial
    · split
      · trivial
      · exact id
    · exact hdecimal _
    · exact id
    · exact id
  refine hwindow.bind fun window => ?_
  unfold get
  split
  · trivial
  · split
    · trivial
    · exact id

namespace Service

theorem ratioFree_settingsFor [BoundCheck] (s : InferenceSettings) (ratio : Value) :
    RatioFree (settingsFor s ratio) := by
  unfold settingsFor
  split
  · trivial
  · unfold Settings.accept
    split
    · trivial
    · exact id

theorem ratioFree_perform [BoundCheck] (hsound : BoundCheck.Sound) (w : World) {st : State}
    (h : st.settings.inference.Usable) (call : Call) : RatioFree (perform w st call).2 := by
  cases call with
  | getProfile => trivial
  | changeProfile name => trivial
  | inferDocuments documents ratio =>
    have hsettings := ratioFree_settingsFor st.settings.inference ratio
    simp only [perform, inferDocuments]
    cases hs : settingsFor st.settings.inference ratio with
    | error e => exact hsettings.of_eq_error hs
    | ok s =>
      obtain ⟨husable, -⟩ := h.of_settingsFor hsound hs
      have hinfer : RatioFree (Inference.infer (Table.plan s) documents) :=
        Inference.ratioFree_infer husable.acceptRatio s.seed documents
      exact documents.ratioFree_length.bind fun _ => hinfer.bind fun _ => trivial
  | inferTable table ratio filter clock =>
    have hsettings := ratioFree_settingsFor st.settings.inference ratio
    have hsession := st.sessions.ratioFree_acquire w.knowsProfile st.settings.account clock
    simp only [perform, inferTable]
    cases hs : settingsFor st.settings.inference ratio with
    | error e => exact hsettings.of_eq_error hs
    | ok s =>
      obtain ⟨husable, -⟩ := h.of_settingsFor hsound hs
      cases hp : st.sessions.acquire w.knowsProfile st.settings.account clock with
      | error e => exact hsession.of_eq_error hp
      | ok session => exact (Table.ratioFree_analyze husable table _ (w.pages table)).map answer

/-- The state after calls in order, where the outside may change from call to call. -/
def after [BoundCheck] (st : State) (history : List (World × Call)) : State :=
  history.foldl (fun st step => (perform step.1 st step.2).1) st

theorem inference_perform [BoundCheck] (w : World) (st : State) (call : Call) :
    (perform w st call).1.settings.inference = st.settings.inference := by
  cases call with
  | getProfile => rfl
  | changeProfile name => rfl
  | inferDocuments documents ratio => rfl
  | inferTable table ratio filter clock =>
    simp only [perform, inferTable]
    split
    · rfl
    · split <;> rfl

theorem inference_after [BoundCheck] (st : State) (history : List (World × Call)) :
    (after st history).settings.inference = st.settings.inference := by
  induction history generalizing st with
  | nil => rfl
  | cons step history ih => exact (ih _).trans (inference_perform step.1 st step.2)

end Service

theorem Settings.validate_of_make {α : Type} {validate : Given → Check α} {given : Given} {a : α}
    (h : make validate given = .ok a) : validate given = .ok a := by
  unfold make accept at h
  split at h
  · split at h
    · next hvalid => rw [hvalid, Except.ok.inj h]
    · cases h
  · cases h

namespace InferenceSettings

/-- The ways in which settings come into being. -/
inductive Made [BoundCheck] : InferenceSettings → Prop
  | given {given : Given} {s : InferenceSettings} :
    Settings.make validate given = .ok s → Made s
  | environment {env : Environment} {s : InferenceSettings} :
    InferenceSettings.ofEnvironment env = .ok s → Made s
  | server {given : Given} {t : ServerSettings} :
    Settings.make ServerSettings.validate given = .ok t → Made t.inference
  | start {env : Environment} {t : ServerSettings} :
    ServerSettings.ofEnvironment env = .ok t → Made t.inference
  | override {s s' : InferenceSettings} {ratio : Value} :
    Made s → Service.settingsFor s ratio = .ok s' → Made s'

theorem exists_given_of_group [BoundCheck] {name kind : String} {v : Value} {s : InferenceSettings}
    (h : Check.group name kind v validate = .ok s) : ∃ given, validate given = .ok s := by
  unfold Check.group Check.inside at h
  split at h
  · next entries _ =>
    split at h
    · next hvalid =>
      obtain rfl := Except.ok.inj h
      exact ⟨entries, hvalid⟩
    · cases h
  · cases h

theorem exists_given_of_server [BoundCheck] {given : Given} {t : ServerSettings}
    (h : ServerSettings.validate given = .ok t) : ∃ given, validate given = .ok t.inference := by
  obtain ⟨⟨account, inference⟩, hboth, rfl⟩ := map_eq_ok_iff.1 h
  obtain ⟨-, hinference⟩ := Check.both_eq_ok_iff.1 hboth
  dsimp only at hinference ⊢
  split at hinference
  · obtain rfl := Except.ok.inj hinference
    exact ⟨[], rfl⟩
  · exact exists_given_of_group hinference

theorem Made.exists_given [BoundCheck] {s : InferenceSettings} (h : s.Made) :
    ∃ given, validate given = .ok s := by
  induction h with
  | given h => exact ⟨_, Settings.validate_of_make h⟩
  | environment h => exact ⟨_, Settings.validate_of_make h⟩
  | server h => exact exists_given_of_server (Settings.validate_of_make h)
  | start h =>
    obtain ⟨account, -, h⟩ := bind_eq_ok_iff.1 h
    obtain ⟨inference, hinference, h⟩ := bind_eq_ok_iff.1 h
    obtain rfl := Except.ok.inj h
    exact ⟨_, Settings.validate_of_make hinference⟩
  | override _ h ih =>
    unfold Service.settingsFor at h
    split at h
    · obtain rfl := Except.ok.inj h
      exact ih
    · unfold Settings.accept at h
      split at h
      · next hvalid =>
        obtain rfl := Except.ok.inj h
        exact ⟨_, hvalid⟩
      · cases h

theorem Made.usable [BoundCheck] (hsound : BoundCheck.Sound) {s : InferenceSettings} (h : s.Made) :
    s.Usable := by
  obtain ⟨given, hgiven⟩ := h.exists_given
  exact Usable.of_validate hsound hgiven

/-- Under a sound check of bounds, settings carry a ratio that a sampler accepts, however they came
into being. With them no analysis of a table, and no call of a tool after any others, fails because
a sampling ratio is out of range. -/
theorem Made.ratio_accepted [BoundCheck] (hsound : BoundCheck.Sound) (s : InferenceSettings)
    (h : s.Made) :
    (∃ q, s.ratio.toRat? = some q ∧ 0 ≤ q ∧ q ≤ 1) ∧
    Sampling.acceptRatio (.float .double s.ratio) = .ok s.ratio.toDecimal ∧
    (∀ table f pages text,
      (Table.analyze s table f pages).schema ≠ .error (.ratioOutOfRange text)) ∧
    ∀ account history w call text,
      (Service.perform w (Service.after (.start ⟨account, s⟩) history) call).2 ≠
        .error (.ratioOutOfRange text) := by
  have husable := h.usable hsound
  refine ⟨husable.exists_toRat?, husable.acceptRatio, fun table f pages text => ?_,
    fun account history w call text => ?_⟩
  · exact RatioFree.ne_error (Table.ratioFree_analyze husable table f pages) text
  · apply RatioFree.ne_error
    apply Service.ratioFree_perform hsound
    rw [Service.inference_after]
    exact husable

theorem Made.ratio_accepted_overridden :
    let refused : Environment := [("MCP_SCHEMA_SAMPLING_RATIO", "nan")]
    let env : Environment := [("MCP_SCHEMA_SAMPLING_RATIO", " 5e-1 "), ("MCP_SCHEMA_SEED", "7")]
    (ofEnvironment refused).isOk = false ∧
      ∃ t s, ServerSettings.ofEnvironment env = .ok t ∧
        Service.settingsFor t.inference (.decimal (.finite true 0 3)) = .ok s ∧
        (∃ q, s.ratio.toRat? = some q ∧ 0 ≤ q ∧ q ≤ 1) ∧
        ∀ w call text, (Service.perform w (Service.after (.start ⟨t.account, s⟩)
          [(w, .inferDocuments (.list []) (.float .double .nan))]) call).2 ≠
            .error (.ratioOutOfRange text) := by
  intro refused env
  have hok : (ServerSettings.ofEnvironment env >>= fun t =>
      Service.settingsFor t.inference (.decimal (.finite true 0 3))).isOk = true := by
    decide +kernel
  obtain ⟨s, hs⟩ := exists_of_isOk hok
  obtain ⟨t, ht, hs⟩ := bind_eq_ok_iff.1 hs
  obtain ⟨hunit, -, -, htools⟩ := Made.ratio_accepted .standard s (.override (.start ht) hs)
  exact ⟨by decide +kernel, t, s, ht, hs, hunit, fun w call text => htools _ _ w call text⟩

/-- With a check that only compares, a server starts on a ratio that both tools refuse. -/
theorem Made.ratio_refused_by_sampler :
    letI : BoundCheck := .comparing
    let env : Environment := [("MCP_SCHEMA_SAMPLING_RATIO", "nan")]
    let w : Service.World := ⟨fun _ => true, [("t", [])]⟩
    let refused := Failure.ratioOutOfRange "nan"
    ∃ t, ServerSettings.ofEnvironment env = .ok t ∧ t.inference.Made ∧ t.inference.ratio = .nan ∧
      (Table.analyze t.inference "t" .none (some [])).schema = .error refused ∧
      (Service.perform w (.start t) (.inferDocuments (.list []) .null)).2 = .error refused ∧
      (Service.perform w (.start t) (.inferTable "t" .null .null (.ofInt 0))).2 =
        .error refused := by
  let _ : BoundCheck := .comparing
  intro env w refused
  have ht : ServerSettings.ofEnvironment env = .ok ⟨.default, { default with ratio := .nan }⟩ := by
    decide +kernel
  exact ⟨_, ht, .start ht, rfl, by decide +kernel, by decide +kernel, by decide +kernel⟩

end InferenceSettings

end TabularSchema
