import TabularSchema.Proofs.LeastBound
import TabularSchema.Proofs.Numeral
import TabularSchema.Proofs.Sequencing
import TabularSchema.Table.Attribute

/-!
# What the parts of an item become

Facts on the two passes over an item of a table, first from attributes to table values and then to
document values. A number text gives an integer exactly if it denotes one. A set keeps one of equal
items and is sorted afterwards, so that what is left of it has the types of all its members.
-/

namespace TabularSchema

namespace Decimal

theorem toRat?_eq_of_same {a b : Decimal} (h : a.same b = true) : a.toRat? = b.toRat? := by
  cases a with
  | finite s c e =>
    cases b with
    | finite t d f =>
      rw [toRat?_finite, toRat?_finite]
      exact congrArg some ((same_iff (toRat?_finite s c e) (toRat?_finite t d f)).1 h)
    | infinity t => cases t <;> simp [same, le, lt] at h
    | nan t signaling payload => simp [same, le, isNaN] at h
  | infinity s =>
    cases b with
    | finite t d f => cases s <;> simp [same, le, lt] at h
    | infinity t => rfl
    | nan t signaling payload => rfl
  | nan s signaling payload => simp [same, le, isNaN] at h

theorem toInt?_eq_of_toRat?_eq {a b : Decimal} (h : a.toRat? = b.toRat?) : a.toInt? = b.toInt? := by
  ext n
  rw [toInt?_eq_some_iff, toInt?_eq_some_iff, h]

end Decimal

namespace Value

theorem insertLast_perm {pivot : Value} {vs ws : List Value} (h : insertLast pivot vs = .ok ws) :
    ws.Perm (pivot :: vs) := by
  induction vs generalizing ws with
  | nil =>
    obtain rfl := Except.ok.inj h
    exact List.Perm.refl _
  | cons v vs ih =>
    rw [insertLast, bind_eq_ok_iff] at h
    obtain ⟨before, -, h⟩ := h
    cases before with
    | true =>
      obtain rfl := Except.ok.inj h
      exact List.Perm.refl _
    | false =>
      obtain ⟨rest, hrest, h⟩ := bind_eq_ok_iff.1 h
      obtain rfl := Except.ok.inj h
      exact ((ih hrest).cons v).trans (List.Perm.swap pivot v vs)

theorem sort_perm {vs ws : List Value} (h : sort vs = .ok ws) : ws.Perm vs := by
  -- Insertion goes from left to right, so the part that is sorted already has to be carried.
  have hfold (acc : List Value)
      (hacc : vs.foldlM (fun sorted v => insertLast v sorted) acc = .ok ws) :
      ws.Perm (vs ++ acc) := by
    clear h
    induction vs generalizing acc with
    | nil =>
      obtain rfl := Except.ok.inj hacc
      exact List.Perm.refl _
    | cons v vs ih =>
      rw [List.foldlM_cons] at hacc
      obtain ⟨acc', hacc', hws⟩ := bind_eq_ok_iff.1 hacc
      exact (ih acc' hws).trans
        (((insertLast_perm hacc').append_left vs).trans List.perm_middle)
  simpa using hfold [] h

theorem mem_addItem {x item : Value} {items : List Value} (h : x ∈ addItem item items) :
    x ∈ items ∨ x = item := by
  rw [addItem] at h
  split at h
  · exact .inl h
  · simpa using h

theorem subset_addItem (item : Value) (items : List Value) : items ⊆ addItem item items := by
  rw [addItem]
  split
  · exact fun _ h => h
  · exact List.subset_append_left items [item]

theorem exists_same_addItem (item : Value) (items : List Value) :
    ∃ x ∈ addItem item items, x = item ∨ x.same item = true := by
  rw [addItem]
  split
  · next h =>
    obtain ⟨x, hx, hsame⟩ := List.any_eq_true.1 h
    exact ⟨x, hx, .inr hsame⟩
  · exact ⟨item, by simp, .inl rfl⟩

end Value

namespace Attribute

theorem toInt?_of_readNumber {s : String} {d : Decimal} (h : readNumber s = .ok d) :
    d.toInt? = (Decimal.parse? s).bind Decimal.toInt? := by
  have hread : Decimal.Context.tableNumber.read s = .ok d := by
    rw [readNumber] at h
    split at h
    · next d' hd =>
      obtain rfl := Except.ok.inj h
      exact hd
    · cases h
  rw [Decimal.Context.read] at hread
  split at hread
  · next hparse =>
    obtain rfl := Except.ok.inj hread
    rw [hparse]
    rfl
  · next negative signaling payload hparse =>
    rw [hparse]
    split at hread <;> obtain rfl := Except.ok.inj hread <;> rfl
  · next d' _ hparse =>
    rw [Decimal.Context.fit] at hread
    split at hread
    · obtain rfl := Except.ok.inj hread
      rw [hparse]
      rfl
    · cases hread

/-- Each item of a set is what some member is read as, and what a member is read as is an item of
the set or equals one. -/
theorem setOf_list_eq_ok {read : Value → Except Failure Value} {es : List Value} {v : Value}
    (h : setOf read (.list es) = .ok v) :
    ∃ items, v = .seq .set items ∧ (∀ x ∈ items, ∃ e ∈ es, read e = .ok x) ∧
      ∀ e ∈ es, ∃ x, read e = .ok x ∧ ∃ y ∈ items, y = x ∨ y.same x = true := by
  have hfold {es acc items : List Value}
      (h : es.foldlM (fun acc e => do
        let item ← read e
        item.checkHashable
        return Value.addItem item acc) acc = .ok items) :
      acc ⊆ items ∧ (∀ x ∈ items, x ∈ acc ∨ ∃ e ∈ es, read e = .ok x) ∧
        ∀ e ∈ es, ∃ x, read e = .ok x ∧ ∃ y ∈ items, y = x ∨ y.same x = true := by
    induction es generalizing acc with
    | nil =>
      obtain rfl := Except.ok.inj h
      exact ⟨fun _ hx => hx, fun _ hx => .inl hx, by simp⟩
    | cons e es ih =>
      rw [List.foldlM_cons] at h
      obtain ⟨acc', hacc', hrest⟩ := bind_eq_ok_iff.1 h
      obtain ⟨x, hx, hacc'⟩ := bind_eq_ok_iff.1 hacc'
      obtain ⟨_, -, hacc'⟩ := bind_eq_ok_iff.1 hacc'
      obtain rfl := Except.ok.inj hacc'
      obtain ⟨hsubset, hitems, hmembers⟩ := ih hrest
      refine ⟨fun y hy => hsubset (Value.subset_addItem x acc hy), fun y hy => ?_,
        List.forall_mem_cons.2 ⟨⟨x, hx, ?_⟩, hmembers⟩⟩
      · rcases hitems y hy with hy | ⟨e', he', hy⟩
        · rcases Value.mem_addItem hy with hy | rfl
          · exact .inl hy
          · exact .inr ⟨e, by simp, hx⟩
        · exact .inr ⟨e', List.mem_cons_of_mem e he', hy⟩
      · obtain ⟨y, hy, hsame⟩ := Value.exists_same_addItem x acc
        exact ⟨y, hsubset hy, hsame⟩
  rw [setOf] at h
  obtain ⟨es', hes, h⟩ := bind_eq_ok_iff.1 h
  obtain rfl := Except.ok.inj hes
  obtain ⟨items, hitems, h⟩ := bind_eq_ok_iff.1 h
  obtain rfl := Except.ok.inj h
  obtain ⟨-, hfrom, hmembers⟩ := hfold hitems
  refine ⟨items, rfl, fun x hx => ?_, hmembers⟩
  simpa using hfrom x hx

end Attribute

namespace Item

theorem decodeEach_eq_mapM (vs : List Value) : decodeEach vs = vs.mapM decode := by
  induction vs with
  | nil => rfl
  | cons v vs ih => rw [decodeEach, List.mapM_cons, ih]

theorem decode_set_eq_ok {items : List Value} {u : Value} (h : decode (.seq .set items) = .ok u) :
    ∃ decoded sorted, items.mapM decode = .ok decoded ∧ sorted.Perm decoded ∧ u = .list sorted := by
  rw [decode, decodeEach_eq_mapM] at h
  obtain ⟨decoded, hdecoded, h⟩ := bind_eq_ok_iff.1 h
  obtain ⟨sorted, hsorted, rfl⟩ := map_eq_ok_iff.1 h
  exact ⟨decoded, sorted, hdecoded, Value.sort_perm hsorted, rfl⟩

theorem decode_decimal (d : Decimal) :
    decode (.decimal d) = .ok ((d.toInt?.map Value.ofInt).getD (.decimal d)) := by
  rw [decode]
  cases d.toInt? <;> rfl

end Item

namespace DataType

theorem foldl_join_congr {ts us : List DataType} (hts : ∀ t ∈ ts, t.WellFormed)
    (h : ∀ t, t ∈ ts ↔ t ∈ us) : ts.foldl join null = us.foldl join null := by
  have hus : ∀ t ∈ us, t.WellFormed := fun t ht => hts t ((h t).2 ht)
  have hnull : null.WellFormed := trivial
  apply eq_of_widensTo_iff (wellFormed_foldl_join hnull hts) (wellFormed_foldl_join hnull hus)
  intro c hc
  rw [foldl_join_widensTo_iff hnull hts hc, foldl_join_widensTo_iff hnull hus hc]
  simp only [h]

end DataType

end TabularSchema
