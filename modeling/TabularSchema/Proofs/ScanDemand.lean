import TabularSchema.Proofs.TableInference

/-!
# A scan goes as far as it is asked to

The pages of a table offer items one after another, and a page that cannot be read offers its
failure. Of what they offer a scan delivers as many items as are wanted and stops: when there are
enough of them or no more, or before that at the first offer that is a failure. A page is requested
exactly if all offers of the pages before it have been delivered and more items are wanted, and the
service is not called at all where nothing is wanted.
-/

namespace TabularSchema

/-- Something offered by a table: an item as a document, or a failure in its place. -/
abbrev Offer := Except Failure Value

/-- What a page offers one after another: its items, or the failure of the page itself. -/
def Page.offers (page : Page) : List Offer :=
  match page.contents with
  | .ok vs => vs.map Item.ofWire
  | .error e => [.error e]

namespace Scan

def offers (pages : List Page) : List Offer := pages.flatMap Page.offers

@[simp] theorem offers_nil : offers [] = [] := rfl

@[simp] theorem offers_cons (page : Page) (pages : List Page) :
    offers (page :: pages) = page.offers ++ offers pages := List.flatMap_cons

abbrev asOffers (items : List Value) : List Offer := items.map .ok

theorem asOffers_append (items more : List Value) :
    asOffers (items ++ more) = asOffers items ++ asOffers more := List.map_append

theorem takeWhile_asOffers_append (items : List Value) (os : List Offer) :
    (asOffers items ++ os).takeWhile Except.isOk = asOffers items ++ os.takeWhile Except.isOk :=
  List.takeWhile_append_of_pos (List.forall_mem_map.2 fun _ _ => rfl)

theorem take_before_failure {k : Nat} {before : List Value} (h : before.length < k) (e : Failure)
    (after : List Offer) :
    ∃ rest,
      (asOffers before ++ .error e :: after).take k = asOffers before ++ .error e :: rest := by
  obtain ⟨n, hn⟩ : ∃ n, k - before.length = n + 1 := ⟨k - before.length - 1, by omega⟩
  have hshort : (asOffers before).length ≤ k := by
    rw [List.length_map]
    omega
  refine ⟨after.take n, ?_⟩
  rw [List.take_append, List.take_of_length_le hshort, List.length_map, hn, List.take_succ_cons]

theorem first_failure_unique {before before' : List Value} {e e' : Failure}
    {after after' : List Offer}
    (h : asOffers before ++ .error e :: after = asOffers before' ++ .error e' :: after') :
    e = e' := by
  induction before generalizing before' with
  | nil =>
    cases before' with
    | nil => exact Except.error.inj (List.cons.inj h).1
    | cons v before' => cases (List.cons.inj h).1
  | cons v before ih =>
    cases before' with
    | nil => cases (List.cons.inj h).1
    | cons v' before' => exact ih (List.cons.inj h).2

/-- What comes of offers if `k` items are wanted: the first `k` offers where these are all items,
and otherwise the items in front of the first failure, with that failure. -/
def Received (k : Nat) (os : List Offer) (items : List Value) : Option Failure → Prop
  | none => asOffers items = os.take k
  | some e => items.length < k ∧ ∃ after, os = asOffers items ++ .error e :: after

namespace Received

variable {k : Nat} {os ps : List Offer} {items more : List Value} {failure : Option Failure}

theorem length_eq (h : Received k os items none) : items.length = min k os.length := by
  have hitems : asOffers items = os.take k := h
  rw [← List.length_take, ← hitems, List.length_map]

theorem cons (h : Received k os items failure) (v : Value) :
    Received (k + 1) (.ok v :: os) (v :: items) failure := by
  cases failure with
  | none => exact congrArg (List.cons (Except.ok v)) h
  | some e =>
    obtain ⟨hlt, after, rfl⟩ := h
    exact ⟨Nat.succ_lt_succ hlt, after, rfl⟩

theorem append (h : Received k os items none)
    (hmore : Received (k - items.length) ps more failure) :
    Received k (os ++ ps) (items ++ more) failure := by
  have hitems : asOffers items = os.take k := h
  have hlength := h.length_eq
  cases failure with
  | none =>
    have hrest : asOffers more = ps.take (k - items.length) := hmore
    have hleft : k - items.length = k - os.length := by omega
    change asOffers (items ++ more) = (os ++ ps).take k
    rw [asOffers_append, List.take_append, hitems, hrest, hleft]
  | some e =>
    obtain ⟨hlt, after, rfl⟩ := hmore
    have hall : asOffers items = os := by
      rw [hitems]
      exact List.take_of_length_le (by omega)
    refine ⟨by rw [List.length_append]; omega, after, ?_⟩
    rw [asOffers_append, hall, List.append_assoc]

theorem append_of_failure {e : Failure} (h : Received k os items (some e)) (ps : List Offer) :
    Received k (os ++ ps) items (some e) := by
  obtain ⟨hlt, after, rfl⟩ := h
  exact ⟨hlt, after ++ ps, by rw [List.append_assoc, List.cons_append]⟩

theorem items_eq (h : Received k os items failure) :
    asOffers items = (os.take k).takeWhile Except.isOk := by
  cases failure with
  | none =>
    have hitems : asOffers items = os.take k := h
    have hself := takeWhile_asOffers_append items []
    rw [List.append_nil, List.takeWhile_nil, List.append_nil] at hself
    rw [← hitems, hself]
  | some e =>
    obtain ⟨hlt, after, rfl⟩ := h
    obtain ⟨rest, htake⟩ := take_before_failure hlt e after
    rw [htake, takeWhile_asOffers_append]
    exact (List.append_nil _).symm

/-- A failure is received exactly if only items stand before it, and fewer than are wanted. -/
theorem failure_eq_some_iff (h : Received k os items failure) (e : Failure) :
    failure = some e ↔
      ∃ before after, os = asOffers before ++ .error e :: after ∧ before.length < k := by
  constructor
  · rintro rfl
    obtain ⟨hlt, after, hos⟩ := h
    exact ⟨items, after, hos, hlt⟩
  · rintro ⟨before, after, rfl, hlt⟩
    cases failure with
    | none =>
      have hitems : asOffers items = (asOffers before ++ .error e :: after).take k := h
      obtain ⟨rest, htake⟩ := take_before_failure hlt e after
      have hmem : .error e ∈ asOffers items := by
        rw [hitems, htake]
        simp
      simp at hmem
    | some e' =>
      obtain ⟨_, after', hos⟩ := h
      rw [first_failure_unique hos]

end Received

/-- Going through the items of a page delivers what is received of them, and leaves the rest of the
demand. -/
theorem deliver_received (k : Nat) (vs : List Value) :
    ∃ items failure, deliver (some k) vs = (items, failure, some (k - items.length)) ∧
      Received k (vs.map Item.ofWire) items failure := by
  induction vs generalizing k with
  | nil => exact ⟨[], none, rfl, List.take_nil.symm⟩
  | cons v vs ih =>
    cases k with
    | zero => exact ⟨[], none, rfl, rfl⟩
    | succ k =>
      rw [List.map_cons]
      cases hv : Item.ofWire v with
      | error e =>
        refine ⟨[], some e, ?_, Nat.succ_pos k, vs.map Item.ofWire, rfl⟩
        simp [deliver, satisfied, hv]
      | ok item =>
        obtain ⟨items, failure, hdeliver, hreceived⟩ := ih k
        refine ⟨item :: items, failure, ?_, hreceived.cons item⟩
        simp [deliver, satisfied, lessOne, hv, hdeliver]

/-- One page, as long as items are wanted: a failure ends the scan there, and otherwise the pages
behind it are read for the items that are still wanted. -/
theorem readPages_cons {k : Nat} (hk : 0 < k) (page : Page) (pages : List Page) :
    ∃ items failure, Received k page.offers items failure ∧
      readPages (some k) (page :: pages) =
        match failure with
        | some e => (items, some e, 1)
        | none =>
          let (more, failure, n) := readPages (some (k - items.length)) pages
          (items ++ more, failure, n + 1) := by
  have hwanted : satisfied (some k) = false := by simp [satisfied, Nat.pos_iff_ne_zero.1 hk]
  rw [readPages, hwanted, Page.offers]
  cases page with
  | refused code text => exact ⟨[], some (.service code text), ⟨hk, [], rfl⟩, rfl⟩
  | blank => exact ⟨[], none, List.take_nil.symm, rfl⟩
  | items v =>
    rw [Page.contents]
    cases helements : v.elements with
    | error e => exact ⟨[], some e, ⟨hk, [], rfl⟩, by simp [helements]⟩
    | ok vs =>
      obtain ⟨items, failure, hdeliver, hreceived⟩ := deliver_received k vs
      refine ⟨items, failure, hreceived, ?_⟩
      cases failure with
      | some e => simp [helements, hdeliver]
      | none => simp [helements, hdeliver]

/-- Reading pages delivers what is received of all that they offer. -/
theorem readPages_received (k : Nat) (pages : List Page) :
    Received k (offers pages) (readPages (some k) pages).1 (readPages (some k) pages).2.1 := by
  induction pages generalizing k with
  | nil => exact List.take_nil.symm
  | cons page pages ih =>
    rcases Nat.eq_zero_or_pos k with rfl | hk
    · exact rfl
    · obtain ⟨items, failure, hreceived, hread⟩ := readPages_cons hk page pages
      rw [hread, offers_cons]
      cases failure with
      | some e => exact hreceived.append_of_failure (offers pages)
      | none => exact hreceived.append (ih (k - items.length))

/-- A page is requested exactly if those before it offer nothing but items, and fewer than are
wanted. -/
theorem lt_pagesRead_iff (k : Nat) (pages : List Page) (i : Nat) :
    i < (readPages (some k) pages).2.2 ↔
      i < pages.length ∧ (∀ o ∈ offers (pages.take i), o.isOk = true) ∧
        (offers (pages.take i)).length < k := by
  induction pages generalizing k i with
  | nil => simp [readPages]
  | cons page pages ih =>
    rcases Nat.eq_zero_or_pos k with rfl | hk
    · simp [readPages, satisfied]
    · obtain ⟨items, failure, hreceived, hread⟩ := readPages_cons hk page pages
      rw [hread]
      cases i with
      | zero => cases failure <;> simp [hk]
      | succ i =>
        rw [List.take_succ_cons, offers_cons, List.forall_mem_append, List.length_append,
          List.length_cons]
        cases failure with
        | some e =>
          obtain ⟨_, after, hoffers⟩ := hreceived
          refine iff_of_false (by simp) fun hall => ?_
          have hfailure := hall.2.1.1 (.error e) (by simp [hoffers])
          cases hfailure
        | none =>
          have hlength := hreceived.length_eq
          change i + 1 < (readPages (some (k - items.length)) pages).2.2 + 1 ↔ _
          rw [Nat.add_lt_add_iff_right, ih, Nat.add_lt_add_iff_right]
          -- Either the page was delivered to its end, or nothing is wanted from the pages behind.
          rcases Nat.lt_or_ge page.offers.length k with hlt | hge
          · have hitems : asOffers items = page.offers.take k := hreceived
            rw [List.take_of_length_le hlt.le] at hitems
            have hok : ∀ o ∈ page.offers, o.isOk = true := by
              rw [← hitems]
              exact List.forall_mem_map.2 fun _ _ => rfl
            have hleft : (offers (pages.take i)).length < k - items.length ↔
                page.offers.length + (offers (pages.take i)).length < k := by omega
            rw [hleft]
            exact and_congr_right fun _ => and_congr_left fun _ => (and_iff_right hok).symm
          · exact iff_of_false (fun h => by omega) (fun h => by omega)

theorem run_of_pos (r : Request) (pages : List Page) {k : Nat} (hk : 0 < k) :
    run r (some pages) (some k) =
      ⟨(readPages (some k) pages).1, (readPages (some k) pages).2.1, r.calls,
        (readPages (some k) pages).2.2⟩ := by
  have hwanted : satisfied (some k) = false := by simp [satisfied, Nat.pos_iff_ne_zero.1 hk]
  simp [run, hwanted]

/-- A scan with a limit, of which a number of items or all are wanted, delivers the first items of
the table up to what is wanted within the limit; only the end of the table or a failure before that
cuts it short. No page is requested behind the last wanted item. -/
theorem take_delivers_demand (r : Request) (n : Int) (hlimit : Attribute.integer? r.limit = some n)
    (hn : 0 ≤ n) (hmax : n < 2 ^ 63) (pages : List Page) (wanted : Option Nat) (k : Nat)
    (hk : k = wanted.elim n.toNat (min n.toNat)) :
    ∃ o, take r (some pages) wanted = .ok o ∧
      asOffers o.items = ((offers pages).take k).takeWhile Except.isOk ∧
      (∀ e, o.failure = some e ↔
        ∃ before after, offers pages = asOffers before ++ .error e :: after ∧ before.length < k) ∧
      (∀ i, i < o.pagesRead ↔
        i < pages.length ∧ (∀ x ∈ offers (pages.take i), x.isOk = true) ∧
          (offers (pages.take i)).length < k) ∧
      o.calls = if k = 0 then [] else r.calls := by
  have hdemand : smaller (some n.toNat) wanted = some k := by
    rw [hk]
    cases wanted <;> rfl
  have htake : take r (some pages) wanted = .ok (run r (some pages) (some k)) := by
    rw [take, limitOf_of_integer hlimit hn hmax, ← hdemand]
    rfl
  refine ⟨_, htake, ?_⟩
  rcases Nat.eq_zero_or_pos k with rfl | hpos
  · simp [run, satisfied, Outcome.nothing]
  · rw [run_of_pos r pages hpos, if_neg (Nat.pos_iff_ne_zero.1 hpos)]
    have hreceived := readPages_received k pages
    exact ⟨hreceived.items_eq, hreceived.failure_eq_some_iff, lt_pagesRead_iff k pages, rfl⟩

/-- Whoever wants the one item before an empty and a refused page has it from the first page,
whoever wants more meets the refusal, and whoever wants nothing makes no call. -/
theorem take_delivers_demand_boundary :
    let item := Value.record [("n", .record [("N", .text "1E+3")])]
    let pages := [Page.items (.list [item]), .blank, .refused "Throttled" "later"]
    let r : Request := ⟨"t", .ofInt 5, defaultPageSize, .null, .null, .null⟩
    ∃ x, Item.ofWire item = .ok x ∧
      (∃ o, take r (some pages) (some 1) = .ok o ∧ asOffers o.items = [.ok x] ∧ o.failure = none ∧
        0 < o.pagesRead ∧ ¬ 1 < o.pagesRead) ∧
      (∃ o, take r (some pages) none = .ok o ∧ asOffers o.items = [.ok x] ∧
        o.failure = some (.service "Throttled" "later")) ∧
      (∃ o, take r (some pages) (some 0) = .ok o ∧ o.calls = []) := by
  intro item pages r
  obtain ⟨x, hx⟩ := exists_of_isOk (show (Item.ofWire item).isOk = true by decide +kernel)
  have hitem : (Page.items (.list [item])).offers = [.ok x] := congrArg (· :: []) hx
  have hone : offers (pages.take 1) = [.ok x] := by
    rw [List.take_succ_cons, offers_cons, hitem]
    rfl
  have hall : offers pages = [.ok x, .error (.service "Throttled" "later")] := by
    rw [offers_cons, hitem]
    rfl
  have htake (wanted : Option Nat) :=
    take_delivers_demand r 5 rfl (by decide) (by decide) pages wanted _ rfl
  rw [hall] at htake
  refine ⟨x, hx, ?_, ?_, ?_⟩
  · obtain ⟨o, ho, hitems, hfailure, hpages, -⟩ := htake (some 1)
    refine ⟨o, ho, hitems, ?_, (hpages 0).2 ⟨by decide, by simp, by decide⟩, fun h => ?_⟩
    · refine Option.eq_none_iff_forall_ne_some.2 fun e he => ?_
      obtain ⟨before, after, hbefore, hlt⟩ := (hfailure e).1 he
      obtain rfl : before = [] := List.length_eq_zero_iff.1 (Nat.lt_one_iff.1 hlt)
      cases hbefore
    · have hlt := ((hpages 1).1 h).2.2
      rw [hone] at hlt
      exact lt_irrefl 1 hlt
  · obtain ⟨o, ho, hitems, hfailure, -, -⟩ := htake none
    exact ⟨o, ho, hitems, (hfailure _).2 ⟨[x], [], rfl, show 1 < 5 by decide⟩⟩
  · obtain ⟨o, ho, -, -, -, hcalls⟩ := htake (some 0)
    exact ⟨o, ho, hcalls⟩

end Scan

end TabularSchema
