import TabularSchema.Proofs.ItemDecoding

/-!
# Places inside an item

The places of a value are reached through the values of plain mappings and the items of lists. What
stands at a place of a decoded item is what the value at that place decodes to, where a member of a
set may come to stand anywhere in the list that the set becomes (`decode_at`). Main statement: a
decoded item holds nothing that decoding would change, so decoding it again gives the same; its
mappings have the keys they had, and its lists their lengths.
-/

namespace TabularSchema

namespace Value

/-- A step to a place of a plain mapping or a list, or to a member of a set. -/
inductive Step where
  | place (i : Nat)
  | member (i : Nat)

def step? : Step → Value → Option Value
  | .place i, .map .plain entries => entries[i]?.map Prod.snd
  | .place i, .seq .list items => items[i]?
  | .member i, .seq .set items => items[i]?
  | .member i, .seq .frozenSet items => items[i]?
  | _, _ => none

/-- The value that steps lead to, one after another. -/
def at? : List Step → Value → Option Value
  | [], v => some v
  | s :: path, v => (v.step? s).bind (at? path)

def placeAt? (places : List Nat) (v : Value) : Option Value := v.at? (places.map .place)

/-- The place where a step arrives after sets have become lists. -/
def Step.Arrives (s : Step) (i : Nat) : Prop := s = .place i ∨ ∃ j, s = .member j

theorem eq_of_arrives_place {places qs : List Nat}
    (h : List.Forall₂ Step.Arrives (places.map .place) qs) : qs = places := by
  induction places generalizing qs with
  | nil => exact List.forall₂_nil_left_iff.1 h
  | cons i places ih =>
    obtain ⟨j, qs, hj, hqs, rfl⟩ := List.forall₂_cons_left_iff.1 h
    rcases hj with hj | ⟨_, hj⟩
    · obtain rfl := Step.place.inj hj
      rw [ih hqs]
    · cases hj

@[simp] theorem placeAt?_nil (v : Value) : v.placeAt? [] = some v := rfl

theorem placeAt?_cons (i : Nat) (places : List Nat) (v : Value) :
    v.placeAt? (i :: places) = (v.step? (.place i)).bind (placeAt? places) := rfl

/-- Nothing that decoding changes by itself: no decimal that is an integer, no wrapped byte string
and no set. -/
def Kept : Value → Prop
  | .decimal d => ∀ n : Int, d.toRat? ≠ some (n : ℚ)
  | .wrapped _ _ => False
  | .seq .set _ => False
  | .seq .frozenSet _ => False
  | _ => True

/-- At no place stands anything that decoding changes. -/
def Settled (v : Value) : Prop := ∀ places x, v.placeAt? places = some x → x.Kept

theorem Settled.kept {v : Value} (h : v.Settled) : v.Kept := h [] v rfl

theorem settled_of_no_step {v : Value} (hkept : v.Kept) (h : ∀ i, v.step? (.place i) = none) :
    v.Settled := by
  intro places x hx
  cases places with
  | nil =>
    obtain rfl := Option.some.inj hx
    exact hkept
  | cons i places =>
    rw [placeAt?_cons, h i] at hx
    cases hx

theorem settled_list_iff {items : List Value} :
    (Value.list items).Settled ↔ ∀ v ∈ items, v.Settled := by
  constructor
  · intro h v hv places x hx
    obtain ⟨i, hi⟩ := List.mem_iff_getElem?.1 hv
    apply h (i :: places) x
    rw [placeAt?_cons, step?, hi]
    exact hx
  · intro h places x hx
    cases places with
    | nil =>
      obtain rfl := Option.some.inj hx
      trivial
    | cons i places =>
      rw [placeAt?_cons, step?] at hx
      obtain ⟨v, hv, hx⟩ := Option.bind_eq_some_iff.1 hx
      exact h v (List.mem_of_getElem? hv) places x hx

theorem settled_map_iff {entries : List (Value × Value)} :
    (Value.map .plain entries).Settled ↔ ∀ e ∈ entries, e.2.Settled := by
  constructor
  · intro h e he places x hx
    obtain ⟨i, hi⟩ := List.mem_iff_getElem?.1 he
    apply h (i :: places) x
    rw [placeAt?_cons, step?, hi]
    exact hx
  · intro h places x hx
    cases places with
    | nil =>
      obtain rfl := Option.some.inj hx
      trivial
    | cons i places =>
      rw [placeAt?_cons, step?] at hx
      obtain ⟨v, hv, hx⟩ := Option.bind_eq_some_iff.1 hx
      obtain ⟨e, he, rfl⟩ := Option.map_eq_some_iff.1 hv
      exact h e (List.mem_of_getElem? he) places x hx

end Value

namespace Item

open Value

theorem decodeEach_eq_ok_iff {items decoded : List Value} :
    decodeEach items = .ok decoded ↔
      List.Forall₂ (fun x y => decode x = .ok y) items decoded := by
  rw [decodeEach_eq_mapM, mapM_eq_ok_iff_forall₂]

theorem decodeEntries_eq_mapM (entries : List (Value × Value)) :
    decodeEntries entries = entries.mapM fun e => (decode e.2).map fun w => (e.1, w) := by
  induction entries with
  | nil => rfl
  | cons e entries ih =>
    rw [decodeEntries, List.mapM_cons, ih]
    cases decode e.2 <;> rfl

theorem decodeEntries_eq_ok_iff {entries decoded : List (Value × Value)} :
    decodeEntries entries = .ok decoded ↔
      List.Forall₂ (fun e f => f.1 = e.1 ∧ decode e.2 = .ok f.2) entries decoded := by
  rw [decodeEntries_eq_mapM, mapM_keyed_eq_ok_iff]

theorem decode_map_eq_ok_iff {entries : List (Value × Value)} {w : Value} :
    decode (.map .plain entries) = .ok w ↔
      ∃ fields, List.Forall₂ (fun e f => f.1 = e.1 ∧ decode e.2 = .ok f.2) entries fields ∧
        .map .plain fields = w := by
  rw [decode, map_eq_ok_iff]
  simp only [decodeEntries_eq_ok_iff]

theorem decode_list_eq_ok_iff {items : List Value} {w : Value} :
    decode (.list items) = .ok w ↔
      ∃ decoded, List.Forall₂ (fun x y => decode x = .ok y) items decoded ∧
        .list decoded = w := by
  rw [decode, map_eq_ok_iff]
  simp only [decodeEach_eq_ok_iff]

def IsSetKind (kind : SeqKind) : Prop := kind = .set ∨ kind = .frozenSet

theorem decode_members_eq_ok_iff {kind : SeqKind} (hkind : IsSetKind kind) {items : List Value}
    {w : Value} :
    decode (.seq kind items) = .ok w ↔
      ∃ decoded sorted, List.Forall₂ (fun x y => decode x = .ok y) items decoded ∧
        sort decoded = .ok sorted ∧ .list sorted = w := by
  have hdecode : decode (.seq kind items) =
      decodeEach items >>= fun decoded => (sort decoded).map (.seq .list) := by
    rcases hkind with rfl | rfl <;> rw [decode]
  rw [hdecode, bind_eq_ok_iff]
  simp only [decodeEach_eq_ok_iff, map_eq_ok_iff, exists_and_left]

theorem decode_step {v w x : Value} {s : Step} (h : decode v = .ok w) (hs : v.step? s = some x) :
    ∃ i y, s.Arrives i ∧ decode x = .ok y ∧ w.step? (.place i) = some y := by
  have hmember {kind : SeqKind} (hkind : IsSetKind kind) {items : List Value} {i : Nat}
      (h : decode (.seq kind items) = .ok w) (hx : items[i]? = some x) :
      ∃ j y, (Step.member i).Arrives j ∧ decode x = .ok y ∧ w.step? (.place j) = some y := by
    obtain ⟨decoded, sorted, hdecoded, hsorted, rfl⟩ := (decode_members_eq_ok_iff hkind).1 h
    obtain ⟨y, hy, hxy⟩ := exists_getElem?_of_forall₂ hdecoded hx
    have hmem : y ∈ sorted := (sort_perm hsorted).mem_iff.2 (List.mem_of_getElem? hy)
    obtain ⟨j, hj⟩ := List.mem_iff_getElem?.1 hmem
    exact ⟨j, y, Or.inr ⟨i, rfl⟩, hxy, hj⟩
  fun_cases step? s v with
  | case1 i entries =>
    rw [step?] at hs
    obtain ⟨e, he, rfl⟩ := Option.map_eq_some_iff.1 hs
    obtain ⟨fields, hfields, rfl⟩ := decode_map_eq_ok_iff.1 h
    obtain ⟨f, hf, -, hdecode⟩ := exists_getElem?_of_forall₂ hfields he
    refine ⟨i, f.2, Or.inl rfl, hdecode, ?_⟩
    rw [step?, hf]
    rfl
  | case2 i items =>
    obtain ⟨decoded, hdecoded, rfl⟩ := decode_list_eq_ok_iff.1 h
    obtain ⟨y, hy, hdecode⟩ := exists_getElem?_of_forall₂ hdecoded hs
    exact ⟨i, y, Or.inl rfl, hdecode, hy⟩
  | case3 i items => exact hmember (Or.inl rfl) h hs
  | case4 i items => exact hmember (Or.inr rfl) h hs
  | case5 =>
    rw [step?] at hs
    · cases hs
    all_goals assumption

/-- What steps lead to decodes to what stands where they arrive in the decoded item. -/
theorem decode_at {path : List Step} {v w x : Value} (h : decode v = .ok w)
    (hx : v.at? path = some x) :
    ∃ places y, List.Forall₂ Step.Arrives path places ∧ decode x = .ok y ∧
      w.placeAt? places = some y := by
  induction path generalizing v w with
  | nil =>
    obtain rfl := Option.some.inj hx
    exact ⟨[], w, .nil, h, rfl⟩
  | cons s path ih =>
    rw [at?] at hx
    obtain ⟨u, hu, hx⟩ := Option.bind_eq_some_iff.1 hx
    obtain ⟨i, u', hi, hu', hstep⟩ := decode_step h hu
    obtain ⟨places, y, hplaces, hy, hplace⟩ := ih hu' hx
    refine ⟨i :: places, y, .cons hi hplaces, hy, ?_⟩
    rw [placeAt?_cons, hstep]
    exact hplace

theorem decode_placeAt {places : List Nat} {v w x : Value} (h : decode v = .ok w)
    (hx : v.placeAt? places = some x) : ∃ y, decode x = .ok y ∧ w.placeAt? places = some y := by
  obtain ⟨qs, y, hqs, hy, hplace⟩ := decode_at h hx
  obtain rfl := eq_of_arrives_place hqs
  exact ⟨y, hy, hplace⟩

theorem decode_of_kept {v : Value} (hscalar : v.IsScalar) (hkept : v.Kept) :
    decode v = .ok v := by
  cases v with
  | decimal d =>
    rw [decode_decimal, Decimal.toInt?_eq_none_iff.2 hkept]
    rfl
  | wrapped form data => exact hkept.elim
  | seq kind items => exact hscalar.elim
  | map kind entries => exact hscalar.elim
  | _ => rfl

theorem settled_decode_scalar {v w : Value} (hscalar : v.IsScalar) (h : decode v = .ok w) :
    w.Settled := by
  cases v with
  | decimal d =>
    rw [decode_decimal] at h
    obtain rfl := Except.ok.inj h
    cases hd : d.toInt? with
    | some n => exact settled_of_no_step trivial fun _ => rfl
    | none => exact settled_of_no_step (Decimal.toInt?_eq_none_iff.1 hd) fun _ => rfl
  | seq kind items => exact hscalar.elim
  | map kind entries => exact hscalar.elim
  | _ =>
    obtain rfl := Except.ok.inj h
    exact settled_of_no_step trivial fun _ => rfl

theorem settled_of_decode {v w : Value} (h : decode v = .ok w) : w.Settled := by
  induction v using Value.inductionOn generalizing w with
  | scalar v hv => exact settled_decode_scalar hv h
  | seq kind items ih =>
    have hresults {decoded : List Value}
        (hdecoded : List.Forall₂ (fun x y => decode x = .ok y) items decoded) :
        ∀ y ∈ decoded, y.Settled := by
      intro y hy
      obtain ⟨x, hx, hxy⟩ := exists_of_mapM_eq_ok (mapM_eq_ok_iff_forall₂.2 hdecoded) y hy
      exact ih x hx hxy
    have hmembers (hkind : IsSetKind kind) : w.Settled := by
      obtain ⟨decoded, sorted, hdecoded, hsorted, rfl⟩ := (decode_members_eq_ok_iff hkind).1 h
      refine settled_list_iff.2 fun y hy => hresults hdecoded y ?_
      exact (sort_perm hsorted).mem_iff.1 hy
    cases kind with
    | list =>
      obtain ⟨decoded, hdecoded, rfl⟩ := decode_list_eq_ok_iff.1 h
      exact settled_list_iff.2 (hresults hdecoded)
    | tuple =>
      obtain rfl := Except.ok.inj h
      exact settled_of_no_step trivial fun _ => rfl
    | set => exact hmembers (Or.inl rfl)
    | frozenSet => exact hmembers (Or.inr rfl)
  | map kind entries ih =>
    cases kind with
    | plain =>
      obtain ⟨fields, hfields, rfl⟩ := decode_map_eq_ok_iff.1 h
      refine settled_map_iff.2 fun f hf => ?_
      obtain ⟨i, hi⟩ := List.mem_iff_getElem?.1 hf
      obtain ⟨e, he, -, hdecode⟩ := exists_getElem?_of_forall₂ hfields.flip hi
      exact ih e (List.mem_of_getElem? he) hdecode
    | readOnly =>
      obtain rfl := Except.ok.inj h
      exact settled_of_no_step trivial fun _ => rfl

theorem decode_of_settled {v : Value} (h : v.Settled) : decode v = .ok v := by
  induction v using Value.inductionOn with
  | scalar v hv => exact decode_of_kept hv h.kept
  | seq kind items ih =>
    cases kind with
    | list =>
      have hitems := settled_list_iff.1 h
      exact decode_list_eq_ok_iff.2
        ⟨items, List.forall₂_same.2 fun x hx => ih x hx (hitems x hx), rfl⟩
    | tuple => rfl
    | set => exact h.kept.elim
    | frozenSet => exact h.kept.elim
  | map kind entries ih =>
    cases kind with
    | plain =>
      have hentries := settled_map_iff.1 h
      exact decode_map_eq_ok_iff.2
        ⟨entries, List.forall₂_same.2 fun e he => ⟨rfl, ih e he (hentries e he)⟩, rfl⟩
    | readOnly => rfl

/-- A decoded item decodes to itself and holds no whole decimal, no wrapped byte string and no set
at any place; the mappings and lists at the places of the item it comes from have their keys in
order and their lengths. -/
theorem decode_settles (v w : Value) (h : decode v = .ok w) :
    decode w = .ok w ∧
    (∀ places x, w.placeAt? places = some x → x.Kept) ∧
    (∀ places entries, v.placeAt? places = some (.map .plain entries) →
      ∃ fields, w.placeAt? places = some (.map .plain fields) ∧
        fields.map Prod.fst = entries.map Prod.fst) ∧
    (∀ places items, v.placeAt? places = some (.list items) →
      ∃ decoded, w.placeAt? places = some (.list decoded) ∧ decoded.length = items.length) := by
  have hsettled := settled_of_decode h
  refine ⟨decode_of_settled hsettled, hsettled, fun places entries hplace => ?_,
    fun places items hplace => ?_⟩
  · obtain ⟨y, hy, hw⟩ := decode_placeAt h hplace
    obtain ⟨fields, hfields, rfl⟩ := decode_map_eq_ok_iff.1 hy
    refine ⟨fields, hw, ?_⟩
    have hkeys : List.Forall₂ (· = ·) (fields.map Prod.fst) (entries.map Prod.fst) := by
      rw [List.forall₂_map_left_iff, List.forall₂_map_right_iff]
      exact (hfields.imp fun _ _ hef => hef.1).flip
    exact List.forall₂_eq_eq_eq ▸ hkeys
  · obtain ⟨y, hy, hw⟩ := decode_placeAt h hplace
    obtain ⟨decoded, hdecoded, rfl⟩ := decode_list_eq_ok_iff.1 hy
    exact ⟨decoded, hw, hdecoded.length_eq.symm⟩

/-- Frozen sets in a set, a tuple and a read-only mapping, which are not gone into, and decimals on
both sides of being whole. -/
theorem decode_settles_nested :
    let v : Value := .map .plain
      [(.text "z", .list [.decimal (.finite true 150 (-2)), .decimal (.finite true 15 1),
          .seq .tuple [.decimal (.finite false 2 0)]]),
        (.decimal (.finite false 1 0),
          .seq .set [.seq .frozenSet [.decimal (.finite false 30 (-1)), .ofInt 2],
            .seq .frozenSet [.decimal (.finite false 0 5)]]),
        (.text "a", .map .readOnly [(.null, .wrapped .fixed [0])]),
        (.text "b", .wrapped .fixed [1, 2])]
    let w : Value := .map .plain
      [(.text "z", .list [.decimal (.finite true 150 (-2)), .ofInt (-150),
          .seq .tuple [.decimal (.finite false 2 0)]]),
        (.decimal (.finite false 1 0), .list [.list [.ofInt 0], .list [.ofInt 2, .ofInt 3]]),
        (.text "a", .map .readOnly [(.null, .wrapped .fixed [0])]),
        (.text "b", .bytes .fixed [1, 2])]
    decode v = .ok w ∧ decode w = .ok w ∧
      ∃ decoded, w.placeAt? [0] = some (.list decoded) ∧ decoded.length = 3 := by
  intro v w
  have h : decode v = .ok w := by with_unfolding_all rfl
  obtain ⟨hagain, -, -, hlists⟩ := decode_settles v w h
  exact ⟨h, hagain, hlists [0] _ rfl⟩

end Item

end TabularSchema
