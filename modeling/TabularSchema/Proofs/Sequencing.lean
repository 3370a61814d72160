import Mathlib.Data.List.Forall2

/-!
# Results of steps in sequence

What is known of the parts when a sequence of steps that may fail gives a result, and which failures
a sequence of steps can have when those of its parts are known.
-/

namespace TabularSchema

variable {ε α β : Type}

theorem bind_eq_ok_iff {x : Except ε α} {f : α → Except ε β} {b : β} :
    x >>= f = .ok b ↔ ∃ a, x = .ok a ∧ f a = .ok b := by
  cases x with
  | error e =>
    constructor
    · intro h
      cases h
    · rintro ⟨_, h, _⟩
      cases h
  | ok a =>
    constructor
    · intro h
      exact ⟨a, rfl, h⟩
    · rintro ⟨a', ha, h⟩
      obtain rfl := Except.ok.inj ha
      exact h

theorem exists_of_isOk {x : Except ε α} (h : x.isOk = true) : ∃ a, x = .ok a := by
  cases x with
  | ok a => exact ⟨a, rfl⟩
  | error e => cases h

theorem map_eq_ok_iff {x : Except ε α} {g : α → β} {b : β} :
    x.map g = .ok b ↔ ∃ a, x = .ok a ∧ g a = b := by
  cases x with
  | error e => simp [Except.map]
  | ok a => simp [Except.map]

section Pairing

variable {R : α → β → Prop} {xs : List α} {ys : List β}

theorem exists_right_of_forall₂ (h : List.Forall₂ R xs ys) : ∀ x ∈ xs, ∃ y ∈ ys, R x y := by
  induction h with
  | nil => exact fun x hx => absurd hx List.not_mem_nil
  | cons hxy _ ih =>
    refine List.forall_mem_cons.2 ⟨⟨_, List.mem_cons_self, hxy⟩, fun x hx => ?_⟩
    obtain ⟨y, hy, hxy⟩ := ih x hx
    exact ⟨y, List.mem_cons_of_mem _ hy, hxy⟩

theorem exists_getElem?_of_forall₂ (h : List.Forall₂ R xs ys) {i : Nat} {x : α}
    (hx : xs[i]? = some x) : ∃ y, ys[i]? = some y ∧ R x y := by
  induction h generalizing i with
  | nil => simp at hx
  | cons hxy _ ih =>
    cases i with
    | zero =>
      obtain rfl := Option.some.inj hx
      exact ⟨_, rfl, hxy⟩
    | succ i => exact ih hx

end Pairing

/-! ## Traversals -/

section Traversal

variable {ι γ : Type} {f : α → Except ε β}

/-- A traversal succeeds exactly with the results of its steps, in their order. -/
theorem mapM_eq_ok_iff_forall₂ {xs : List α} {ys : List β} :
    xs.mapM f = .ok ys ↔ List.Forall₂ (fun x y => f x = .ok y) xs ys := by
  induction xs generalizing ys with
  | nil =>
    rw [List.forall₂_nil_left_iff, List.mapM_nil]
    exact ⟨fun h => (Except.ok.inj h).symm, fun h => congrArg Except.ok h.symm⟩
  | cons x xs ih =>
    rw [List.mapM_cons, bind_eq_ok_iff, List.forall₂_cons_left_iff]
    refine exists_congr fun y => ?_
    rw [bind_eq_ok_iff]
    constructor
    · rintro ⟨hy, zs, hzs, h⟩
      exact ⟨zs, hy, ih.1 hzs, (Except.ok.inj h).symm⟩
    · rintro ⟨zs, hy, hzs, rfl⟩
      exact ⟨hy, zs, ih.2 hzs, rfl⟩

theorem mapM_cons_eq_ok_iff {x : α} {xs : List α} {zs : List β} :
    (x :: xs).mapM f = .ok zs ↔ ∃ y ys, f x = .ok y ∧ xs.mapM f = .ok ys ∧ zs = y :: ys := by
  simp only [mapM_eq_ok_iff_forall₂, List.forall₂_cons_left_iff]

theorem exists_result_of_mapM_eq_ok {xs : List α} {ys : List β} (h : xs.mapM f = .ok ys) :
    ∀ x ∈ xs, ∃ y ∈ ys, f x = .ok y :=
  exists_right_of_forall₂ (mapM_eq_ok_iff_forall₂.1 h)

theorem exists_of_mapM_eq_ok {xs : List α} {ys : List β} (h : xs.mapM f = .ok ys) :
    ∀ y ∈ ys, ∃ x ∈ xs, f x = .ok y :=
  exists_right_of_forall₂ (mapM_eq_ok_iff_forall₂.1 h).flip

theorem mapM_eq_ok_of_forall {xs : List α} (h : ∀ x ∈ xs, ∃ y, f x = .ok y) :
    ∃ ys, xs.mapM f = .ok ys := by
  simp only [mapM_eq_ok_iff_forall₂]
  induction xs with
  | nil => exact ⟨[], .nil⟩
  | cons x xs ih =>
    obtain ⟨⟨y, hy⟩, hxs⟩ := List.forall_mem_cons.1 h
    obtain ⟨ys, hys⟩ := ih hxs
    exact ⟨y :: ys, .cons hy hys⟩

theorem mapM_keyed_eq_ok_iff {κ : Type} {key : α → κ} {xs : List α} {ys : List (κ × β)} :
    xs.mapM (fun x => (f x).map fun y => (key x, y)) = .ok ys ↔
      List.Forall₂ (fun x y => y.1 = key x ∧ f x = .ok y.2) xs ys := by
  have hstep (x : α) (y : κ × β) :
      (f x).map (fun z => (key x, z)) = .ok y ↔ y.1 = key x ∧ f x = .ok y.2 := by
    rw [map_eq_ok_iff]
    constructor
    · rintro ⟨z, hz, rfl⟩
      exact ⟨rfl, hz⟩
    · rintro ⟨hkey, hy⟩
      exact ⟨y.2, hy, Prod.ext hkey.symm rfl⟩
  simp only [mapM_eq_ok_iff_forall₂, hstep]

theorem mapM_append_eq_ok_iff {xs ys : List α} {zs : List β} :
    (xs ++ ys).mapM f = .ok zs ↔
      ∃ as bs, xs.mapM f = .ok as ∧ ys.mapM f = .ok bs ∧ zs = as ++ bs := by
  rw [List.mapM_append, bind_eq_ok_iff]
  refine exists_congr fun as => ?_
  rw [bind_eq_ok_iff]
  constructor
  · rintro ⟨has, bs, hbs, h⟩
    exact ⟨bs, has, hbs, (Except.ok.inj h).symm⟩
  · rintro ⟨bs, has, hbs, rfl⟩
    exact ⟨has, bs, hbs, rfl⟩

/-- If all steps succeed, so do those of any part of them, with a part of the results. -/
theorem mapM_sublist {xs ys : List α} (h : xs.Sublist ys) {zs : List β} (hys : ys.mapM f = .ok zs) :
    ∃ ws, xs.mapM f = .ok ws ∧ ws.Sublist zs := by
  induction h generalizing zs with
  | slnil =>
    obtain rfl := Except.ok.inj hys
    exact ⟨[], rfl, List.Sublist.slnil⟩
  | cons y _ ih =>
    obtain ⟨z, zs, _, hzs, rfl⟩ := mapM_cons_eq_ok_iff.1 hys
    obtain ⟨ws, hws, hsub⟩ := ih hzs
    exact ⟨ws, hws, hsub.cons z⟩
  | cons_cons y _ ih =>
    obtain ⟨z, zs, hz, hzs, rfl⟩ := mapM_cons_eq_ok_iff.1 hys
    obtain ⟨ws, hws, hsub⟩ := ih hzs
    exact ⟨z :: ws, mapM_cons_eq_ok_iff.2 ⟨z, ws, hz, hws, rfl⟩, hsub.cons_cons z⟩

theorem mapM_take_eq_ok {xs : List α} {ys : List β} (h : xs.mapM f = .ok ys) (n : Nat) :
    (xs.take n).mapM f = .ok (ys.take n) :=
  mapM_eq_ok_iff_forall₂.2 (List.forall₂_take n (mapM_eq_ok_iff_forall₂.1 h))

/-- If each step gives a known result or fails in a known way, so does the traversal: it fails as
soon as one step does. -/
theorem mapM_ok_or_error {g : α → β} {good : α → Prop} {bad : ι → ε} {xs : List α}
    (h : ∀ x ∈ xs, (good x ∧ f x = .ok (g x)) ∨ (¬ good x ∧ ∃ i, f x = .error (bad i))) :
    ((∀ x ∈ xs, good x) ∧ xs.mapM f = .ok (xs.map g)) ∨
      (¬ (∀ x ∈ xs, good x) ∧ ∃ i, xs.mapM f = .error (bad i)) := by
  induction xs with
  | nil => exact Or.inl ⟨by simp, rfl⟩
  | cons x xs ih =>
    obtain ⟨hx, hxs⟩ := List.forall_mem_cons.1 h
    rw [List.forall_mem_cons, List.mapM_cons]
    rcases hx with ⟨hgood, hx⟩ | ⟨hbad, i, hx⟩
    · rw [hx]
      rcases ih hxs with ⟨hall, hrest⟩ | ⟨hnot, i, hrest⟩
      · rw [hrest]
        exact Or.inl ⟨⟨hgood, hall⟩, rfl⟩
      · rw [hrest]
        exact Or.inr ⟨fun hall => hnot hall.2, i, rfl⟩
    · rw [hx]
      exact Or.inr ⟨fun hall => hbad hall.1, i, rfl⟩

/-- The first step that fails decides the failure. -/
theorem mapM_eq_error_of_first {before after : List α} {x : α} {e : ε}
    (hbefore : ∀ y ∈ before, ∃ z, f y = .ok z) (hx : f x = .error e) :
    (before ++ x :: after).mapM f = .error e := by
  induction before with
  | nil =>
    rw [List.nil_append, List.mapM_cons, hx]
    rfl
  | cons y before ih =>
    obtain ⟨⟨z, hz⟩, hrest⟩ := List.forall_mem_cons.1 hbefore
    rw [List.cons_append, List.mapM_cons, hz, ih hrest]
    rfl

theorem mapM_map_result (g : β → γ) (xs : List α) :
    xs.mapM (fun x => (f x).map g) = (xs.mapM f).map (List.map g) := by
  induction xs with
  | nil => rfl
  | cons x xs ih =>
    rw [List.mapM_cons, List.mapM_cons, ih]
    cases f x with
    | error e => rfl
    | ok y => cases xs.mapM f <;> rfl

theorem mapM_flatten (xss : List (List α)) :
    xss.flatten.mapM f = (xss.mapM (List.mapM f)).map List.flatten := by
  induction xss with
  | nil => rfl
  | cons xs xss ih =>
    rw [List.flatten_cons, List.mapM_append, List.mapM_cons, ih]
    cases xs.mapM f with
    | error e => rfl
    | ok ys => cases xss.mapM (List.mapM f) <;> rfl

end Traversal

/-- If the step fails, then with a failure of the given kind. -/
def FailsWithin (P : ε → Prop) : Except ε α → Prop
  | .ok _ => True
  | .error e => P e

namespace FailsWithin

variable {P : ε → Prop}

theorem of_eq_error {x : Except ε α} (h : FailsWithin P x) {e : ε} (he : x = .error e) : P e := by
  rw [he] at h
  exact h

theorem mono {Q : ε → Prop} {x : Except ε α} (h : FailsWithin P x) (hPQ : ∀ e, P e → Q e) :
    FailsWithin Q x := by
  cases x with
  | ok a => trivial
  | error e => exact hPQ e h

theorem bind {x : Except ε α} {f : α → Except ε β} (hx : FailsWithin P x)
    (hf : ∀ a, FailsWithin P (f a)) : FailsWithin P (x >>= f) := by
  cases x with
  | ok a => exact hf a
  | error e => exact hx

theorem map {x : Except ε α} (hx : FailsWithin P x) (g : α → β) : FailsWithin P (x.map g) := by
  cases x with
  | ok a => trivial
  | error e => exact hx

theorem mapM {f : α → Except ε β} {xs : List α} (h : ∀ x ∈ xs, FailsWithin P (f x)) :
    FailsWithin P (xs.mapM f) := by
  induction xs with
  | nil => trivial
  | cons x xs ih =>
    obtain ⟨hx, hxs⟩ := List.forall_mem_cons.1 h
    rw [List.mapM_cons]
    exact hx.bind fun y => (ih hxs).bind fun ys => trivial

theorem foldlM {f : β → α → Except ε β} (h : ∀ b a, FailsWithin P (f b a)) (xs : List α) (b : β) :
    FailsWithin P (xs.foldlM f b) := by
  induction xs generalizing b with
  | nil => trivial
  | cons x xs ih =>
    rw [List.foldlM_cons]
    exact (h b x).bind ih

end FailsWithin

end TabularSchema
