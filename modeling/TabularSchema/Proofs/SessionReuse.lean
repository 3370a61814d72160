import Mathlib.Data.Finset.Card
import Mathlib.Data.Finset.Dedup
import TabularSchema.Proofs.Sequencing
import TabularSchema.Proofs.SessionWindow

/-!
# When a session is reused

Requests for sessions are handled one after another by a pool, each at a time of its own. What a
pool holds is the start of the list of all keys that were granted, the latest first. So a request
gets the session of the latest request with its key, if that one was granted and fewer than 32 other
keys have been since; any other request gets a new session or fails. A request that fails leaves no
trace.
-/

namespace TabularSchema

/-- A request for a session: the profiles known at that time, the account it is for, and the time
itself. -/
structure SessionRequest where
  known : String → Bool
  account : Account
  seconds : ℚ

def SessionRequest.key (r : SessionRequest) : SessionKey :=
  ⟨r.account.profile, r.account.region, Session.windowAt r.seconds⟩

namespace SessionPool

def handle (p : SessionPool) (r : SessionRequest) : SessionPool × Except Failure SessionId :=
  p.serve r.known r.key

/-- A request is what comes of a clock that shows its time. -/
theorem step_of_shows {r : SessionRequest} {clock : Value} (h : Session.Shows clock r.seconds)
    (p : SessionPool) : p.step r.known r.account clock = p.handle r := by
  rw [step, h.windowOf_eq]
  rfl

/-- The pool with a new session for a key. -/
def addNew (p : SessionPool) (k : SessionKey) : SessionPool :=
  touch ⟨p.held, p.made ++ [.ofKey k]⟩ k p.made.length

/-- All that a request can do: its session is held, it gets a new one, or its profile is not
known. -/
theorem handle_cases (p : SessionPool) (r : SessionRequest) :
    (∃ s, p.find? r.key = some s ∧ p.handle r = (p.touch r.key s, .ok s)) ∨
      p.find? r.key = none ∧
        (r.known r.account.profile = true ∧
            p.handle r = (p.addNew r.key, .ok p.made.length) ∨
          r.known r.account.profile = false ∧
            p.handle r = (p, .error (.unknownProfile r.account.profile))) := by
  have hprofile : r.account.profile = r.key.profile := rfl
  rw [handle, serve, get, hprofile]
  cases p.find? r.key with
  | some s => exact Or.inl ⟨s, rfl, rfl⟩
  | none =>
    refine Or.inr ⟨rfl, ?_⟩
    cases r.known r.key.profile with
    | true => exact Or.inl ⟨rfl, rfl⟩
    | false => exact Or.inr ⟨rfl, rfl⟩

theorem handle_of_error {p : SessionPool} {r : SessionRequest} {e : Failure}
    (h : (p.handle r).2 = .error e) : (p.handle r).1 = p := by
  rcases p.handle_cases r with ⟨s, _, hr⟩ | ⟨_, ⟨_, hr⟩ | ⟨_, hr⟩⟩
  · rw [hr] at h
    cases h
  · rw [hr] at h
    cases h
  · rw [hr]

def after (p : SessionPool) (rs : List SessionRequest) : SessionPool :=
  rs.foldl (fun p r => (p.handle r).1) p

def answers (p : SessionPool) : List SessionRequest → List (Except Failure SessionId)
  | [] => []
  | r :: rs => (p.handle r).2 :: answers (p.handle r).1 rs

theorem after_append (p : SessionPool) (rs qs : List SessionRequest) :
    p.after (rs ++ qs) = (p.after rs).after qs := List.foldl_append

theorem after_append_singleton (p : SessionPool) (rs : List SessionRequest) (r : SessionRequest) :
    p.after (rs ++ [r]) = ((p.after rs).handle r).1 := after_append p rs [r]

theorem length_answers (p : SessionPool) (rs : List SessionRequest) :
    (p.answers rs).length = rs.length := by
  induction rs generalizing p with
  | nil => rfl
  | cons r rs ih => rw [answers, List.length_cons, ih, List.length_cons]

theorem answers_append (p : SessionPool) (rs qs : List SessionRequest) :
    p.answers (rs ++ qs) = p.answers rs ++ (p.after rs).answers qs := by
  induction rs generalizing p with
  | nil => rfl
  | cons r rs ih =>
    rw [List.cons_append, answers, ih, answers, List.cons_append]
    rfl

/-- The key and the session of a request that was granted. -/
def grant? (r : SessionRequest) (answer : Except Failure SessionId) :
    Option (SessionKey × SessionId) :=
  answer.toOption.map fun s => (r.key, s)

/-- The keys and sessions of all requests that were granted, in order. -/
def granted (rs : List SessionRequest) : List (SessionKey × SessionId) :=
  (rs.zip (empty.answers rs)).filterMap fun x => grant? x.1 x.2

theorem granted_append_singleton (rs : List SessionRequest) (r : SessionRequest) :
    granted (rs ++ [r]) =
      granted rs ++ (grant? r ((empty.after rs).handle r).2).toList := by
  rw [granted, answers_append, List.zip_append (length_answers empty rs).symm,
    List.filterMap_append, granted]
  change _ ++ [(r, ((empty.after rs).handle r).2)].filterMap _ = _
  rw [List.filterMap_cons, List.filterMap_nil]
  cases grant? r ((empty.after rs).handle r).2 <;> rfl

/-- The keys that were granted, each with the session of its latest request, the latest first. -/
def recency (served : List (SessionKey × SessionId)) : List (SessionKey × SessionId) :=
  served.foldl (fun held e => e :: held.filter (fun f => f.1 != e.1)) []

theorem recency_append_singleton (served : List (SessionKey × SessionId))
    (e : SessionKey × SessionId) :
    recency (served ++ [e]) = e :: (recency served).filter (fun f => f.1 != e.1) :=
  List.foldl_append

theorem mem_keys_recency {served : List (SessionKey × SessionId)} {k : SessionKey} :
    k ∈ (recency served).map Prod.fst ↔ k ∈ served.map Prod.fst := by
  induction served using List.reverseRecOn with
  | nil => rfl
  | append_singleton served e ih =>
    have hfilter : k ∈ ((recency served).filter (fun f => f.1 != e.1)).map Prod.fst ↔
        k ∈ (recency served).map Prod.fst ∧ k ≠ e.1 := by
      simp only [List.mem_map, List.mem_filter, bne_iff_ne]
      grind
    rw [recency_append_singleton, List.map_cons, List.mem_cons, hfilter, ih, List.map_append,
      List.mem_append, List.map_singleton, List.mem_singleton]
    tauto

theorem nodup_keys_recency (served : List (SessionKey × SessionId)) :
    ((recency served).map Prod.fst).Nodup := by
  induction served using List.reverseRecOn with
  | nil => exact List.nodup_nil
  | append_singleton served e ih =>
    rw [recency_append_singleton, List.map_cons, List.nodup_cons]
    refine ⟨?_, ih.sublist (List.filter_sublist.map _)⟩
    simp only [List.mem_map, List.mem_filter, bne_iff_ne]
    rintro ⟨f, ⟨-, hne⟩, heq⟩
    exact hne heq

theorem length_recency (served : List (SessionKey × SessionId)) :
    (recency served).length = (served.map Prod.fst).toFinset.card := by
  have hkeys : ((recency served).map Prod.fst).toFinset = (served.map Prod.fst).toFinset := by
    ext k
    rw [List.mem_toFinset, List.mem_toFinset, mem_keys_recency]
  rw [← hkeys, List.toFinset_card_of_nodup (nodup_keys_recency served), List.length_map]

/-- What was granted before keeps its order behind what was granted later. -/
theorem recency_append (earlier later : List (SessionKey × SessionId)) :
    recency (earlier ++ later) =
      recency later ++ (recency earlier).filter (fun f => f.1 ∉ later.map Prod.fst) := by
  induction later using List.reverseRecOn with
  | nil => simp [recency]
  | append_singleton later e ih =>
    rw [← List.append_assoc, recency_append_singleton, ih, List.filter_append, List.filter_filter,
      recency_append_singleton, List.cons_append]
    congr 2
    apply List.filter_congr
    intro f _
    rw [Bool.eq_iff_iff]
    simp only [Bool.and_eq_true, bne_iff_ne, decide_eq_true_eq, List.map_append, List.mem_append,
      List.map_singleton, List.mem_singleton, not_or]
    exact and_comm

theorem exists_last_of_mem_keys {served : List (SessionKey × SessionId)} {k : SessionKey}
    (h : k ∈ served.map Prod.fst) :
    ∃ earlier s later, served = earlier ++ (k, s) :: later ∧ k ∉ later.map Prod.fst := by
  induction served using List.reverseRecOn with
  | nil => cases h
  | append_singleton served e ih =>
    by_cases hk : k = e.1
    · exact ⟨served, e.2, [], by rw [hk], List.not_mem_nil⟩
    · have hmem : k ∈ served.map Prod.fst := by
        rw [List.map_append, List.mem_append] at h
        exact h.resolve_right fun h => hk (List.mem_singleton.1 h)
      obtain ⟨earlier, s, later, rfl, hlater⟩ := ih hmem
      refine ⟨earlier, s, later ++ [e], by simp, ?_⟩
      rw [List.map_append, List.mem_append]
      rintro (h | h)
      · exact hlater h
      · exact hk (List.mem_singleton.1 h)

/-- The latest request for the key that was granted got the session, and fewer than `n` other keys
were granted since. -/
def Recent (n : Nat) (served : List (SessionKey × SessionId)) (k : SessionKey) (s : SessionId) :
    Prop :=
  ∃ earlier later, served = earlier ++ (k, s) :: later ∧ k ∉ later.map Prod.fst ∧
    (later.map Prod.fst).toFinset.card < n

theorem recency_of_last (earlier : List (SessionKey × SessionId)) {k : SessionKey} (s : SessionId)
    {later : List (SessionKey × SessionId)} (h : k ∉ later.map Prod.fst) :
    ∃ tail, recency (earlier ++ (k, s) :: later) = recency later ++ (k, s) :: tail := by
  have hsplit : earlier ++ (k, s) :: later = (earlier ++ [(k, s)]) ++ later := by simp
  rw [hsplit, recency_append, recency_append_singleton, List.filter_cons_of_pos (by simpa using h)]
  exact ⟨_, rfl⟩

theorem mem_take_recency_iff {n : Nat} {served : List (SessionKey × SessionId)} {k : SessionKey}
    {s : SessionId} : (k, s) ∈ (recency served).take n ↔ Recent n served k s := by
  constructor
  · intro h
    have hmem : (k, s) ∈ recency served := List.mem_of_mem_take h
    have hkey : k ∈ served.map Prod.fst :=
      mem_keys_recency.1 (List.mem_map_of_mem hmem)
    obtain ⟨earlier, s', later, rfl, hlater⟩ := exists_last_of_mem_keys hkey
    obtain ⟨tail, htail⟩ := recency_of_last earlier s' hlater
    have hlast : (k, s') ∈ recency (earlier ++ (k, s') :: later) := by simp [htail]
    obtain ⟨-, rfl⟩ := Prod.mk.inj
      (List.inj_on_of_nodup_map (nodup_keys_recency _) hmem hlast rfl)
    refine ⟨earlier, later, rfl, hlater, ?_⟩
    by_contra hcard
    rw [← length_recency, not_lt] at hcard
    rw [htail, List.take_append_of_le_length hcard] at h
    exact hlater (mem_keys_recency.1 (List.mem_map_of_mem (List.mem_of_mem_take h)))
  · rintro ⟨earlier, later, rfl, hlater, hcard⟩
    obtain ⟨tail, htail⟩ := recency_of_last earlier s hlater
    rw [← length_recency] at hcard
    rw [htail, List.take_append, List.mem_append]
    right
    obtain ⟨m, hm⟩ : ∃ m, n - (recency later).length = m + 1 :=
      Nat.exists_eq_succ_of_ne_zero (by omega)
    rw [hm, List.take_succ_cons]
    exact List.mem_cons_self

/-- Of a list with distinct keys it is enough to keep one more than is taken after a key is left
out. -/
theorem take_filter_take {xs : List (SessionKey × SessionId)} (h : (xs.map Prod.fst).Nodup)
    (k : SessionKey) (n : Nat) :
    ((xs.take (n + 1)).filter (fun e => e.1 != k)).take n =
      (xs.filter (fun e => e.1 != k)).take n := by
  induction xs generalizing n with
  | nil => rfl
  | cons e xs ih =>
    rw [List.map_cons, List.nodup_cons] at h
    by_cases he : e.1 = k
    · have hkeep (ys : List (SessionKey × SessionId)) (hys : ys ⊆ xs) :
          ys.filter (fun f => f.1 != k) = ys := by
        rw [List.filter_eq_self]
        intro f hf
        rw [bne_iff_ne]
        rintro rfl
        exact h.1 (he ▸ List.mem_map_of_mem (hys hf))
      rw [List.take_succ_cons, List.filter_cons_of_neg (by simp [he]),
        List.filter_cons_of_neg (by simp [he]), hkeep _ (List.take_subset n xs),
        hkeep xs (List.Subset.refl xs), List.take_take, min_self]
    · cases n with
      | zero => rw [List.take_zero, List.take_zero]
      | succ n =>
        rw [List.take_succ_cons, List.filter_cons_of_pos (by simp [he]),
          List.filter_cons_of_pos (by simp [he]), List.take_succ_cons, List.take_succ_cons, ih h.2]

/-- Granting a session keeps the pool at the start of the granted keys. -/
theorem held_touch {p : SessionPool} {served : List (SessionKey × SessionId)}
    (h : p.held = (recency served).take capacity) (k : SessionKey) (s : SessionId)
    (made : List SessionArguments) :
    (touch ⟨p.held, made⟩ k s).held = (recency (served ++ [(k, s)])).take capacity := by
  have hnodup := nodup_keys_recency served
  have hcapacity : capacity = 31 + 1 := rfl
  rw [recency_append_singleton, touch, h, hcapacity, List.take_succ_cons, List.take_succ_cons,
    take_filter_take hnodup k 31]

theorem granted_of_error {r : SessionRequest} {e : Failure} {rs : List SessionRequest}
    (h : ((empty.after rs).handle r).2 = .error e) : granted (rs ++ [r]) = granted rs := by
  rw [granted_append_singleton, h]
  exact List.append_nil _

theorem granted_of_ok {r : SessionRequest} {s : SessionId} {rs : List SessionRequest}
    (h : ((empty.after rs).handle r).2 = .ok s) :
    granted (rs ++ [r]) = granted rs ++ [(r.key, s)] := by
  rw [granted_append_singleton, h]
  rfl

/-- After any requests a pool holds the keys granted last, each with its latest session. -/
theorem held_after (rs : List SessionRequest) :
    (empty.after rs).held = (recency (granted rs)).take capacity := by
  induction rs using List.reverseRecOn with
  | nil => rfl
  | append_singleton rs r ih =>
    rw [after_append_singleton]
    rcases (empty.after rs).handle_cases r with ⟨s, -, hr⟩ | ⟨-, ⟨-, hr⟩ | ⟨-, hr⟩⟩
    · rw [granted_of_ok (congrArg Prod.snd hr), hr]
      exact held_touch ih r.key s _
    · rw [granted_of_ok (congrArg Prod.snd hr), hr]
      exact held_touch ih r.key _ _
    · rw [granted_of_error (congrArg Prod.snd hr), hr, ih]

theorem mem_held_of_find? {p : SessionPool} {k : SessionKey} {s : SessionId}
    (h : p.find? k = some s) : (k, s) ∈ p.held := by
  obtain ⟨e, hfind, rfl⟩ := Option.map_eq_some_iff.1 h
  have hkey : e.1 = k := by simpa using List.find?_some hfind
  rw [← hkey]
  exact List.mem_of_find?_eq_some hfind

theorem find?_eq_some_iff {p : SessionPool} (h : (p.held.map Prod.fst).Nodup) {k : SessionKey}
    {s : SessionId} : p.find? k = some s ↔ (k, s) ∈ p.held := by
  constructor
  · exact mem_held_of_find?
  · intro hmem
    have hfound : (p.held.find? (fun e => e.1 == k)).isSome :=
      List.find?_isSome.2 ⟨(k, s), hmem, beq_self_eq_true k⟩
    obtain ⟨e, hfind⟩ := Option.isSome_iff_exists.1 hfound
    have hkey : e.1 = k := by simpa using List.find?_some hfind
    have heq : e = (k, s) :=
      List.inj_on_of_nodup_map h (List.mem_of_find?_eq_some hfind) hmem hkey
    rw [find?, hfind, heq]
    rfl

theorem find?_after_eq_some_iff {rs : List SessionRequest} {k : SessionKey} {s : SessionId} :
    (empty.after rs).find? k = some s ↔ Recent capacity (granted rs) k s := by
  have hnodup : ((empty.after rs).held.map Prod.fst).Nodup := by
    rw [held_after]
    exact (nodup_keys_recency (granted rs)).sublist ((List.take_sublist _ _).map _)
  rw [find?_eq_some_iff hnodup, held_after, mem_take_recency_iff]

theorem handle_of_find?_eq_some {p : SessionPool} {r : SessionRequest} {s : SessionId}
    (h : p.find? r.key = some s) : (p.handle r).2 = .ok s ∧ (p.handle r).1.made = p.made := by
  rw [handle, serve, get, h]
  exact ⟨rfl, rfl⟩

theorem handle_of_find?_eq_none {p : SessionPool} {r : SessionRequest}
    (h : p.find? r.key = none) :
    r.known r.account.profile = true ∧ (p.handle r).2 = .ok p.made.length ∧
        (p.handle r).1.made = p.made ++ [.ofKey r.key] ∨
      r.known r.account.profile = false ∧
        (p.handle r).2 = .error (.unknownProfile r.account.profile) := by
  rcases p.handle_cases r with ⟨s, hs, -⟩ | ⟨-, ⟨hknown, hr⟩ | ⟨hunknown, hr⟩⟩
  · rw [h] at hs
    cases hs
  · rw [hr]
    exact Or.inl ⟨hknown, rfl, rfl⟩
  · rw [hr]
    exact Or.inr ⟨hunknown, rfl⟩

/-- A request is answered with a session made before exactly if the latest request for its key that
was granted got this session and fewer than 32 other keys were granted since. Any other request
makes one session or fails. A failing request changes nothing, and what follows is answered as if it
had not been made. The key is the account with the floor of the time in hours, and every clock that
shows the time as an integer or as a double makes the request so. -/
theorem handle_reuses_iff_recent (rs : List SessionRequest) (r : SessionRequest) :
    let p := empty.after rs
    r.key = ⟨r.account.profile, r.account.region, ⌊r.seconds / 3600⌋⟩ ∧
    (∀ s, (p.handle r).2 = .ok s ∧ (p.handle r).1.made = p.made ↔
      Recent 32 (granted rs) r.key s) ∧
    ((∀ s, ¬ Recent 32 (granted rs) r.key s) →
      r.known r.account.profile = true ∧ (p.handle r).2 = .ok p.made.length ∧
        (p.handle r).1.made = p.made ++ [.ofKey r.key] ∨
      r.known r.account.profile = false ∧
        (p.handle r).2 = .error (.unknownProfile r.account.profile)) ∧
    (∀ e, (p.handle r).2 = .error e → (p.handle r).1 = p ∧
      ∀ later, empty.answers (rs ++ r :: later) = empty.answers rs ++ .error e :: p.answers later ∧
        empty.answers (rs ++ later) = empty.answers rs ++ p.answers later) ∧
    ∀ (q : SessionRequest) (clock : Value), Session.Shows clock q.seconds →
      ∀ pool : SessionPool, pool.step q.known q.account clock = pool.handle q := by
  intro p
  refine ⟨by rw [← Session.windowAt_eq_floor]; rfl, fun s => ⟨?_, fun hrecent => ?_⟩,
    fun hnone => ?_, fun e he => ?_, fun q clock hclock => step_of_shows hclock⟩
  · rintro ⟨hanswer, hmade⟩
    refine find?_after_eq_some_iff.1 ?_
    cases hfind : p.find? r.key with
    | some s' =>
      have hheld := (handle_of_find?_eq_some hfind).1
      exact congrArg some (Except.ok.inj (hheld.symm.trans hanswer))
    | none =>
      rcases handle_of_find?_eq_none hfind with ⟨-, -, hnew⟩ | ⟨-, herror⟩
      · have hlength := congrArg List.length (hmade.symm.trans hnew)
        simp at hlength
      · rw [herror] at hanswer
        cases hanswer
  · exact handle_of_find?_eq_some (find?_after_eq_some_iff.2 hrecent)
  · refine handle_of_find?_eq_none (Option.eq_none_iff_forall_ne_some.2 fun s hs => ?_)
    exact hnone s (find?_after_eq_some_iff.1 hs)
  · have hsame : (p.handle r).1 = p := handle_of_error he
    refine ⟨hsame, fun later => ⟨?_, answers_append empty rs later⟩⟩
    rw [answers_append, answers, he, hsame]

/-- A session is kept through requests for 31 other keys, and not through 32. -/
theorem handle_reuses_iff_recent_boundary :
    let request (name : String) (seconds : ℚ) : SessionRequest :=
      ⟨fun _ => true, ⟨name, none⟩, seconds⟩
    let others (n : Nat) : List SessionRequest :=
      (List.range n).map fun i => request (toString i) 7199
    ((empty.after (request "a" (7199 / 2) :: others 31)).handle (request "a" 3599)).2 = .ok 0 ∧
      ((empty.after (request "a" (7199 / 2) :: others 32)).handle (request "a" 3599)).2 =
        .ok 33 := by
  intro request others
  have hgranted : granted (request "a" (7199 / 2) :: others 31) = [] ++
      ((request "a" 3599).key, 0) ::
        (List.range 31).map fun i => (⟨toString i, none, 1⟩, i + 1) := by decide +kernel
  have hrecent : Recent 32 (granted (request "a" (7199 / 2) :: others 31))
      (request "a" 3599).key 0 := by
    refine ⟨_, _, hgranted, by decide +kernel, ?_⟩
    exact (List.toFinset_card_le _).trans_lt (by decide +kernel)
  obtain ⟨-, hreuse, -⟩ :=
    handle_reuses_iff_recent (request "a" (7199 / 2) :: others 31) (request "a" 3599)
  exact ⟨((hreuse 0).2 hrecent).1, by decide +kernel⟩

end SessionPool

end TabularSchema
