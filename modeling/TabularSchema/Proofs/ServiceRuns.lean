import TabularSchema.Proofs.RatioSafety
import TabularSchema.Proofs.SessionReuse

/-!
# Runs of the service

Whatever calls a service has performed, its settings are those it started with, but for the profile,
which is the one named last. What is held for a key was made with the arguments of that key, so a
table is scanned through a session for the profile in force, also after the profile was changed
between sessions that are still held.
-/

namespace TabularSchema

namespace SessionPool

/-- Every session that is held was made with the arguments of its key. -/
def Sound (p : SessionPool) : Prop :=
  ∀ e ∈ p.held, p.made[e.2]? = some (.ofKey e.1)

theorem Sound.empty : empty.Sound := fun _ h => nomatch h

theorem mem_held_touch {p : SessionPool} {k : SessionKey} {s : SessionId}
    {e : SessionKey × SessionId} (h : e ∈ (p.touch k s).held) : e = (k, s) ∨ e ∈ p.held := by
  rcases List.mem_cons.1 (List.mem_of_mem_take h) with he | he
  · exact Or.inl he
  · exact Or.inr (List.mem_of_mem_filter he)

theorem Sound.touch {p : SessionPool} (h : p.Sound) {k : SessionKey} {s : SessionId}
    (hs : p.made[s]? = some (.ofKey k)) : (p.touch k s).Sound := by
  intro e he
  rcases mem_held_touch he with rfl | he
  · exact hs
  · exact h e he

theorem Sound.grow {p : SessionPool} (h : p.Sound) (arguments : SessionArguments) :
    Sound ⟨p.held, p.made ++ [arguments]⟩ := by
  intro e he
  obtain ⟨hlt, -⟩ := List.getElem?_eq_some_iff.1 (h e he)
  rw [List.getElem?_append_left hlt]
  exact h e he

/-- The session a sound pool gives for a key was made with the arguments of the key, the pool stays
sound, and no session made before is given up. -/
theorem Sound.get {p : SessionPool} (h : p.Sound) {known : String → Bool} {k : SessionKey}
    {s : SessionId} {p' : SessionPool} (hget : p.get known k = .ok (s, p')) :
    p'.Sound ∧ p'.made[s]? = some (.ofKey k) ∧ p.made <+: p'.made := by
  rw [SessionPool.get] at hget
  cases hfind : p.find? k with
  | some t =>
    rw [hfind] at hget
    obtain ⟨rfl, rfl⟩ := Prod.mk.inj (Except.ok.inj hget)
    have hmade := h _ (mem_held_of_find? hfind)
    exact ⟨h.touch hmade, hmade, List.prefix_rfl⟩
  | none =>
    rw [hfind] at hget
    dsimp only at hget
    split at hget
    · obtain ⟨rfl, rfl⟩ := Prod.mk.inj (Except.ok.inj hget)
      have hmade : (p.made ++ [SessionArguments.ofKey k])[p.made.length]? = some (.ofKey k) :=
        List.getElem?_concat_length
      exact ⟨(h.grow _).touch hmade, hmade, List.prefix_append _ _⟩
    · cases hget

theorem Sound.acquire {p : SessionPool} (h : p.Sound) {known : String → Bool} {a : Account}
    {clock : Value} {s : SessionId} {p' : SessionPool}
    (hacquire : p.acquire known a clock = .ok (s, p')) :
    p'.Sound ∧ p'.made[s]? = some ⟨a.profile, a.region.filter (· ≠ "")⟩ ∧ p.made <+: p'.made := by
  obtain ⟨w, -, hget⟩ := bind_eq_ok_iff.1 hacquire
  exact h.get hget

end SessionPool

namespace Service

theorem after_append (st : State) (earlier later : List (World × Call)) :
    after st (earlier ++ later) = after (after st earlier) later := List.foldl_append

/-- All that a request for the schema of a table can do: the settings are refused, no session is to
be had, or the table is scanned through the session of the account. -/
theorem inferTable_cases (w : World) (st : State) (table : String) (ratio filter clock : Value) :
    (∃ e, settingsFor st.settings.inference ratio = .error e ∧
      inferTable w st table ratio filter clock = (st, .error e)) ∨
    ∃ s, settingsFor st.settings.inference ratio = .ok s ∧
      ((∃ e, st.sessions.acquire w.knowsProfile st.settings.account clock = .error e ∧
        inferTable w st table ratio filter clock = (st, .error e)) ∨
      ∃ session sessions,
        st.sessions.acquire w.knowsProfile st.settings.account clock = .ok (session, sessions) ∧
        let a := Table.analyze s table ⟨filter, .null, .null⟩ (w.pages table)
        inferTable w st table ratio filter clock =
          (⟨st.settings, sessions, st.calls ++ a.calls.map fun c => (session, c),
            st.pagesRead + a.pagesRead⟩, a.schema.map answer)) := by
  rw [inferTable]
  cases settingsFor st.settings.inference ratio with
  | error e => exact Or.inl ⟨e, rfl, rfl⟩
  | ok s =>
    refine Or.inr ⟨s, rfl, ?_⟩
    cases st.sessions.acquire w.knowsProfile st.settings.account clock with
    | error e => exact Or.inl ⟨e, rfl, rfl⟩
    | ok result => exact Or.inr ⟨result.1, result.2, rfl, rfl⟩

def Call.profile? : Call → Option String
  | .changeProfile name => some name
  | _ => none

def latestProfile (first : String) (history : List (World × Call)) : String :=
  (history.filterMap fun step => step.2.profile?).getLastD first

theorem settings_perform (w : World) (st : State) (call : Call) :
    (perform w st call).1.settings =
      ⟨⟨call.profile?.getD st.settings.account.profile, st.settings.account.region⟩,
        st.settings.inference⟩ := by
  cases call with
  | getProfile => rfl
  | changeProfile name => rfl
  | inferDocuments documents ratio => rfl
  | inferTable table ratio filter clock =>
    rcases inferTable_cases w st table ratio filter clock with
      ⟨e, -, h⟩ | ⟨s, -, ⟨e, -, h⟩ | ⟨session, sessions, -, h⟩⟩
    all_goals
      rw [perform, h]
      rfl

theorem settings_after (st : State) (history : List (World × Call)) :
    (after st history).settings =
      ⟨⟨latestProfile st.settings.account.profile history, st.settings.account.region⟩,
        st.settings.inference⟩ := by
  induction history using List.reverseRecOn with
  | nil => rfl
  | append_singleton history step ih =>
    have hlast : latestProfile st.settings.account.profile (history ++ [step]) =
        step.2.profile?.getD (latestProfile st.settings.account.profile history) := by
      rw [latestProfile, List.filterMap_append]
      cases hstep : step.2.profile? <;> simp [latestProfile, hstep]
    have hstep := settings_perform step.1 (after st history) step.2
    rw [after_append, hlast]
    rw [ih] at hstep
    exact hstep

theorem sound_perform {st : State} (h : st.sessions.Sound) (w : World) (call : Call) :
    (perform w st call).1.sessions.Sound ∧
      st.sessions.made <+: (perform w st call).1.sessions.made := by
  cases call with
  | getProfile => exact ⟨h, List.prefix_rfl⟩
  | changeProfile name => exact ⟨h, List.prefix_rfl⟩
  | inferDocuments documents ratio => exact ⟨h, List.prefix_rfl⟩
  | inferTable table ratio filter clock =>
    rw [perform]
    rcases inferTable_cases w st table ratio filter clock with
      ⟨e, -, hr⟩ | ⟨s, -, ⟨e, -, hr⟩ | ⟨session, sessions, hacquire, hr⟩⟩
    · rw [hr]
      exact ⟨h, List.prefix_rfl⟩
    · rw [hr]
      exact ⟨h, List.prefix_rfl⟩
    · obtain ⟨hsound, -, hmade⟩ := h.acquire hacquire
      rw [hr]
      exact ⟨hsound, hmade⟩

theorem sound_after {st : State} (h : st.sessions.Sound) (history : List (World × Call)) :
    (after st history).sessions.Sound ∧ st.sessions.made <+: (after st history).sessions.made := by
  induction history generalizing st with
  | nil => exact ⟨h, List.prefix_rfl⟩
  | cons step history ih =>
    obtain ⟨hsound, hmade⟩ := sound_perform h step.1 step.2
    obtain ⟨hsound', hmade'⟩ := ih hsound
    exact ⟨hsound', hmade.trans hmade'⟩

theorem made_after {st : State} (h : st.sessions.Sound) {session : SessionId}
    {arguments : SessionArguments} (hmade : st.sessions.made[session]? = some arguments)
    (later : List (World × Call)) :
    (after st later).sessions.made[session]? = some arguments := by
  obtain ⟨-, hkept⟩ := sound_after h later
  obtain ⟨hlt, hget⟩ := List.getElem?_eq_some_iff.1 hmade
  rw [List.prefix_iff_getElem?.1 hkept session hlt, hget]

/-- A request for the schema of a table changes nothing if the ratio or the session is refused. If
not, it scans through a session that has the arguments of the account in force, also after any later
calls. -/
theorem perform_inferTable {st : State} (h : st.sessions.Sound) (w : World) (table : String)
    (ratio filter clock : Value) :
    let done := perform w st (.inferTable table ratio filter clock)
    (∀ e, settingsFor st.settings.inference ratio = .error e → done = (st, .error e)) ∧
    ∀ s, settingsFor st.settings.inference ratio = .ok s →
      let acquired := st.sessions.acquire w.knowsProfile st.settings.account clock
      let analysis := Table.analyze s table ⟨filter, .null, .null⟩ (w.pages table)
      (∀ e, acquired = .error e → done = (st, .error e)) ∧
      ∀ session sessions, acquired = .ok (session, sessions) →
        done.1.calls = st.calls ++ analysis.calls.map (fun c => (session, c)) ∧
        done.2 = analysis.schema.map answer ∧
        ∀ later, (after done.1 later).sessions.made[session]? =
          some ⟨st.settings.account.profile, st.settings.account.region.filter (· ≠ "")⟩ := by
  simp only [perform, inferTable]
  refine ⟨fun e he => by rw [he], fun s hs => ⟨fun e he => by rw [hs, he], ?_⟩⟩
  intro session sessions hacquire
  rw [hs, hacquire]
  refine ⟨rfl, rfl, fun later => ?_⟩
  obtain ⟨hsound, hmade, -⟩ := h.acquire hacquire
  exact made_after hsound hmade later

/-- After any calls the region and the settings of the inference are the first ones, and the profile
is the one named last, which is what the tool for it answers. Documents are answered as in the state
at the start. A table is scanned, if the ratio is accepted and a session is to be had, through a
session that was made for that profile and the first region. -/
theorem run_changes_only_profile (settings : ServerSettings) (history : List (World × Call))
    (w : World) :
    let st := after (.start settings) history
    let profile := latestProfile settings.account.profile history
    st.settings.account.region = settings.account.region ∧
    st.settings.inference = settings.inference ∧
    st.settings.account.profile = profile ∧
    (perform w st .getProfile).2 = .ok profile ∧
    (∀ documents ratio w', (perform w st (.inferDocuments documents ratio)).2 =
      (perform w' (.start settings) (.inferDocuments documents ratio)).2) ∧
    ∀ table ratio filter clock,
      let done := perform w st (.inferTable table ratio filter clock)
      (∀ e, settingsFor settings.inference ratio = .error e → done = (st, .error e)) ∧
      ∀ s, settingsFor settings.inference ratio = .ok s →
        let acquired :=
          st.sessions.acquire w.knowsProfile ⟨profile, settings.account.region⟩ clock
        let analysis := Table.analyze s table ⟨filter, .null, .null⟩ (w.pages table)
        (∀ e, acquired = .error e → done = (st, .error e)) ∧
        ∀ session sessions, acquired = .ok (session, sessions) →
          done.1.calls = st.calls ++ analysis.calls.map (fun c => (session, c)) ∧
          done.2 = analysis.schema.map answer ∧
          ∀ later, (after done.1 later).sessions.made[session]? =
            some ⟨profile, settings.account.region.filter (· ≠ "")⟩ := by
  intro st profile
  have hsettings : st.settings = ⟨⟨profile, settings.account.region⟩, settings.inference⟩ :=
    settings_after (.start settings) history
  have hsound : st.sessions.Sound := (sound_after SessionPool.Sound.empty history).1
  refine ⟨by rw [hsettings], by rw [hsettings], by rw [hsettings], ?_, ?_, ?_⟩
  · rw [perform, hsettings]
  · intro documents ratio w'
    rw [perform, hsettings]
    rfl
  · intro table ratio filter clock
    have hdone := perform_inferTable hsound w table ratio filter clock
    rw [hsettings] at hdone
    exact hdone

/-- With the profile changed and changed back, and a ratio refused in between, a table is scanned
through the first session again. -/
theorem run_changes_only_profile_switching :
    let w : World := ⟨fun _ => true, [("t", [.items (.list [])])]⟩
    let settings : ServerSettings := ⟨⟨"a", some "eu"⟩, .default⟩
    let scan (ratio : Value) (clock : Int) : Call := .inferTable "t" ratio .null (.ofInt clock)
    let history := [(w, scan .null 0), (w, .changeProfile "b"), (w, scan .null 1),
      (w, scan (.ofInt 2) 2), (w, .changeProfile "a")]
    let st := after (.start settings) history
    let done := perform w st (scan (.text "0.5") 3599)
    (perform w st .getProfile).2 = .ok "a" ∧ st.calls.length < done.1.calls.length ∧
      (∃ calls : List ServiceCall, done.1.calls = st.calls ++ calls.map fun c => (0, c)) ∧
      done.1.sessions.made[0]? = some ⟨"a", some "eu"⟩ := by
  intro w settings scan history st done
  obtain ⟨-, -, -, hprofile, -, htable⟩ := run_changes_only_profile settings history w
  have hok : (settingsFor settings.inference (.text "0.5")).isOk = true := by decide +kernel
  obtain ⟨s, hs⟩ := exists_of_isOk hok
  have hfirst : (st.sessions.acquire w.knowsProfile ⟨"a", some "eu"⟩ (.ofInt 3599)).map
      Prod.fst = .ok 0 := by decide +kernel
  obtain ⟨⟨session, sessions⟩, hacquired, hsession⟩ := map_eq_ok_iff.1 hfirst
  obtain rfl : session = 0 := hsession
  obtain ⟨hcalls, -, hmade⟩ :=
    ((htable "t" (.text "0.5") .null (.ofInt 3599)).2 s hs).2 0 sessions hacquired
  exact ⟨hprofile, by decide +kernel, ⟨_, hcalls⟩, hmade []⟩

end Service

end TabularSchema
