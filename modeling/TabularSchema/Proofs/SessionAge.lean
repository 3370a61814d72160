import TabularSchema.Proofs.SessionReuse

/-!
# How old a session is

Every session that a request gets was made at that request or at an earlier one with the same key.
So it was made with the profile and the region asked for, and at a time in the same window, which is
less than a window away.
-/

namespace TabularSchema

namespace SessionPool

/-- The request, handled after others, makes a session with the arguments and is answered with
it. -/
structure Creates (before : List SessionRequest) (r : SessionRequest) (s : SessionId)
    (arguments : SessionArguments) : Prop where
  answer : ((empty.after before).handle r).2 = .ok s
  number : s = (empty.after before).made.length
  made : ((empty.after before).handle r).1.made = (empty.after before).made ++ [arguments]

theorem mem_granted_of_find? {rs : List SessionRequest} {k : SessionKey} {s : SessionId}
    (h : (empty.after rs).find? k = some s) : (k, s) ∈ granted rs := by
  obtain ⟨earlier, later, hserved, -, -⟩ := find?_after_eq_some_iff.1 h
  rw [hserved]
  exact List.mem_append_right earlier List.mem_cons_self

theorem mem_granted_or_creates {rs : List SessionRequest} {r : SessionRequest} {s : SessionId}
    (h : ((empty.after rs).handle r).2 = .ok s) :
    (r.key, s) ∈ granted rs ∨ Creates rs r s (.ofKey r.key) := by
  cases hfind : (empty.after rs).find? r.key with
  | some s' =>
    left
    obtain rfl := Except.ok.inj ((handle_of_find?_eq_some hfind).1.symm.trans h)
    exact mem_granted_of_find? hfind
  | none =>
    right
    rcases handle_of_find?_eq_none hfind with ⟨-, hnew, hmade⟩ | ⟨-, herror⟩
    · obtain rfl := Except.ok.inj (hnew.symm.trans h)
      exact ⟨hnew, rfl, hmade⟩
    · rw [herror] at h
      cases h

/-- Every session that was granted was made at a request for the same key. -/
theorem exists_creates_of_mem_granted {rs : List SessionRequest} {k : SessionKey} {s : SessionId}
    (h : (k, s) ∈ granted rs) :
    ∃ before origin later, rs = before ++ origin :: later ∧ origin.key = k ∧
      Creates before origin s (.ofKey k) := by
  -- On the requests, from the first on: the last one adds one grant, of a session that was granted
  -- before or that it makes.
  induction rs using List.reverseRecOn with
  | nil => cases h
  | append_singleton rs r ih =>
    have earlier (hmem : (k, s) ∈ granted rs) : ∃ before origin later,
        rs ++ [r] = before ++ origin :: later ∧ origin.key = k ∧
          Creates before origin s (.ofKey k) := by
      obtain ⟨before, origin, later, rfl, hkey, hcreates⟩ := ih hmem
      exact ⟨before, origin, later ++ [r], by simp, hkey, hcreates⟩
    cases hanswer : ((empty.after rs).handle r).2 with
    | error e =>
      rw [granted_of_error hanswer] at h
      exact earlier h
    | ok s' =>
      rw [granted_of_ok hanswer, List.mem_append, List.mem_singleton] at h
      rcases h with h | h
      · exact earlier h
      · obtain ⟨rfl, rfl⟩ := Prod.mk.inj h
        rcases mem_granted_or_creates hanswer with hmem | hcreates
        · exact earlier hmem
        · exact ⟨rs, r, [], rfl, rfl, hcreates⟩

/-- The region a session is made with is the one asked for, and an empty one counts as none. -/
theorem region_ofKey (k : SessionKey) :
    ((SessionArguments.ofKey k).region = none ↔ k.region = none ∨ k.region = some "") ∧
      ∀ name, (SessionArguments.ofKey k).region = some name ↔ k.region = some name ∧ name ≠ "" := by
  rw [SessionArguments.ofKey]
  constructor
  · cases k.region <;> simp
  · intro name
    rw [Option.filter_eq_some_iff, decide_eq_true_eq]

/-- A session that a request gets was made at this request or before, with the profile and the
region of the request, where an empty region counts as none, and less than an hour away from it.
Every clock that shows the times as integers or as doubles makes the requests so. -/
theorem handle_grants_session_within_hour {rs : List SessionRequest} {r : SessionRequest}
    {s : SessionId} (h : ((empty.after rs).handle r).2 = .ok s) :
    (∃ before origin later arguments, rs ++ [r] = before ++ origin :: later ∧
      Creates before origin s arguments ∧
      arguments.profile = r.account.profile ∧
      (arguments.region = none ↔ r.account.region = none ∨ r.account.region = some "") ∧
      (∀ name, arguments.region = some name ↔ r.account.region = some name ∧ name ≠ "") ∧
      |origin.seconds - r.seconds| < 3600) ∧
    ∀ (q : SessionRequest) (clock : Value), Session.Shows clock q.seconds →
      ∀ pool : SessionPool, pool.step q.known q.account clock = pool.handle q := by
  have hgranted : (r.key, s) ∈ granted (rs ++ [r]) := by
    rw [granted_of_ok h]
    exact List.mem_append_right _ (List.mem_singleton.2 rfl)
  obtain ⟨before, origin, later, hsplit, horigin, hcreates⟩ :=
    exists_creates_of_mem_granted hgranted
  obtain ⟨hnone, hsome⟩ := region_ofKey r.key
  obtain ⟨-, -, hwindow⟩ := SessionKey.mk.inj horigin
  exact ⟨⟨before, origin, later, _, hsplit, hcreates, rfl, hnone, hsome,
    Session.abs_sub_lt_of_windowAt_eq hwindow⟩, fun q clock hclock => step_of_shows hclock⟩

/-- A clock that is set back, after a request in the next window and one that failed, finds the
session of its window again. -/
theorem handle_grants_session_within_hour_backwards :
    let request (profile : String) (seconds : ℚ) : SessionRequest :=
      ⟨(· == "a"), ⟨profile, some ""⟩, seconds⟩
    let rs := [request "a" (-1 / 3), request "a" 0, request "b" 7200]
    ((empty.after rs).handle (request "a" (-3600))).2 = .ok 0 ∧
      ∃ before origin later, rs ++ [request "a" (-3600)] = before ++ origin :: later ∧
        Creates before origin 0 ⟨"a", none⟩ ∧ |origin.seconds - -3600| < 3600 := by
  intro request rs
  have hanswer : ((empty.after rs).handle (request "a" (-3600))).2 = .ok 0 := by decide +kernel
  obtain ⟨⟨before, origin, later, ⟨profile, region⟩, hsplit, hcreates, hprofile, hnone, -, hclose⟩,
    -⟩ := handle_grants_session_within_hour hanswer
  obtain rfl : profile = "a" := hprofile
  obtain rfl : region = none := hnone.2 (Or.inr rfl)
  exact ⟨hanswer, before, origin, later, hsplit, hcreates, hclose⟩

end SessionPool

end TabularSchema
