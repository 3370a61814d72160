import TabularSchema.Proofs.PrincipalType
import TabularSchema.Proofs.Sequencing
import TabularSchema.Table.Attribute

/-!
# What can be wrong with an item

An item fails because of its own form: a value of a kind that does not belong where it stands, a
number beyond the limits of stored numbers, or a set whose members cannot be told apart or ordered.
`Failure.OfItem` lists these failures. Main statement: reading and decoding an item fails with no
other.
-/

namespace TabularSchema

def Failure.OfItem : Failure → Prop
  | .noAttribute _ _ | .emptyAttribute | .unknownAttribute _ | .textless _ => True
  | .notNumeric _ | .badTriple _ | .tooWide _ | .trapped _ | .notBytes => True
  | .notIterable _ | .unhashable _ | .unhashableNaN => True
  | .incomparable _ _ _ | .dateAgainstTimestamp | .mixedOffsets => True
  | _ => False

open Failure (OfItem)

namespace Value

theorem failsWithin_fieldName (key : Value) : FailsWithin OfItem key.fieldName := by
  unfold fieldName written
  split
  · trivial
  · split <;> trivial

theorem failsWithin_elements (v : Value) :
    FailsWithin (fun e => ∃ kind, e = .notIterable kind) v.elements := by
  unfold elements
  split <;> first | trivial | exact ⟨_, rfl⟩

theorem ofItem_elements (v : Value) : FailsWithin OfItem v.elements :=
  v.failsWithin_elements.mono fun _ ⟨_, h⟩ => h ▸ trivial

theorem failsWithin_checkAllHashable {xs : List Value}
    (h : ∀ x ∈ xs, FailsWithin OfItem x.checkHashable) :
    FailsWithin OfItem (checkAllHashable xs) := by
  induction xs with
  | nil => trivial
  | cons x xs ih =>
    obtain ⟨hx, hxs⟩ := List.forall_mem_cons.1 h
    rw [checkAllHashable]
    exact hx.bind fun _ => ih hxs

theorem failsWithin_checkHashable (v : Value) : FailsWithin OfItem v.checkHashable := by
  induction v using inductionOn with
  | scalar v hv =>
    unfold checkHashable
    split <;> trivial
  | seq kind items ih =>
    cases kind with
    | tuple =>
      rw [checkHashable]
      exact failsWithin_checkAllHashable ih
    | list | set | frozenSet => trivial
  | map kind entries ih => trivial

theorem failsWithin_lessScalar (a b : Value) : FailsWithin OfItem (lessScalar a b) := by
  unfold lessScalar
  split
  · split <;> trivial
  · split
    · trivial
    · split <;> first | trivial | (split <;> trivial)

theorem failsWithin_lessEach {xs : List Value} (h : ∀ x ∈ xs, ∀ y, FailsWithin OfItem (less x y))
    (ys : List Value) : FailsWithin OfItem (lessEach xs ys) := by
  induction xs generalizing ys with
  | nil => cases ys <;> trivial
  | cons x xs ih =>
    cases ys with
    | nil => trivial
    | cons y ys =>
      obtain ⟨hx, hxs⟩ := List.forall_mem_cons.1 h
      rw [lessEach]
      split
      · exact ih hxs ys
      · exact hx y

theorem failsWithin_less (a b : Value) : FailsWithin OfItem (less a b) := by
  induction a using inductionOn generalizing b with
  | scalar a ha =>
    unfold less
    split <;> first | exact ha.elim | exact failsWithin_lessScalar _ _
  | seq kind xs ih =>
    have heach := failsWithin_lessEach ih
    unfold less
    split
    · next h =>
      obtain ⟨-, rfl⟩ := Value.seq.inj h
      exact heach _
    · next h =>
      obtain ⟨-, rfl⟩ := Value.seq.inj h
      exact heach _
    all_goals trivial
  | map kind entries ih =>
    unfold less
    exact failsWithin_lessScalar _ _

theorem failsWithin_insertLast (pivot : Value) (vs : List Value) :
    FailsWithin OfItem (insertLast pivot vs) := by
  induction vs with
  | nil => trivial
  | cons v vs ih =>
    rw [insertLast]
    refine (failsWithin_less pivot v).bind fun before => ?_
    split
    · trivial
    · exact ih.bind fun _ => trivial

theorem failsWithin_sort (vs : List Value) : FailsWithin OfItem (sort vs) :=
  FailsWithin.foldlM (fun sorted v => failsWithin_insertLast v sorted) vs []

end Value

namespace Attribute

theorem failsWithin_tagOf (key : Value) : FailsWithin OfItem (tagOf key) := by
  refine key.failsWithin_fieldName.bind fun name => ?_
  split <;> trivial

theorem failsWithin_notAttribute {α : Type} (v : Value) :
    FailsWithin OfItem (.error (notAttribute v) : Except Failure α) := by
  unfold notAttribute
  split <;> trivial

theorem failsWithin_fit (d : Decimal) : FailsWithin OfItem (fit d) := by
  unfold fit
  split <;> trivial

theorem failsWithin_readNumber (s : String) : FailsWithin OfItem (readNumber s) := by
  unfold readNumber
  split <;> trivial

theorem failsWithin_machineInteger (kind : String) (n : Int) :
    FailsWithin OfItem (machineInteger kind n) := by
  unfold machineInteger
  split <;> trivial

theorem failsWithin_digitOf (v : Value) : FailsWithin OfItem (digitOf v) := by
  unfold digitOf
  split
  · trivial
  · refine (failsWithin_machineInteger _ _).bind fun n => ?_
    split <;> trivial

theorem failsWithin_digitsOf (v : Value) : FailsWithin OfItem (digitsOf v) := by
  unfold digitsOf
  split
  · exact FailsWithin.mapM fun v _ => failsWithin_digitOf v
  · exact FailsWithin.mapM fun v _ => failsWithin_digitOf v
  · trivial

theorem failsWithin_signOf (v : Value) : FailsWithin OfItem (signOf v) := by
  unfold signOf
  dsimp only
  split
  · trivial
  · refine (failsWithin_machineInteger _ _).bind fun n => ?_
    split
    · trivial
    · split <;> trivial

theorem failsWithin_scaleOf (v : Value) : FailsWithin OfItem (scaleOf v) := by
  unfold scaleOf
  split
  · trivial
  · trivial
  · trivial
  · trivial
  · split
    · exact (failsWithin_machineInteger _ _).map _
    · trivial

theorem failsWithin_ofParts (parts : List Value) : FailsWithin OfItem (ofParts parts) := by
  unfold ofParts
  split
  · refine (failsWithin_signOf _).bind fun negative => (failsWithin_scaleOf _).bind fun scale =>
      (failsWithin_digitsOf _).bind fun digits => ?_
    cases scale with
    | infinity => trivial
    | nan signaling =>
      dsimp only
      split <;> trivial
    | power e => exact failsWithin_fit _
  · trivial

theorem failsWithin_number (v : Value) : FailsWithin OfItem (number v) := by
  unfold number
  split
  · exact failsWithin_readNumber _
  · exact failsWithin_fit _
  · exact failsWithin_fit _
  · exact failsWithin_fit _
  · split <;> trivial
  · exact failsWithin_fit _
  · exact failsWithin_ofParts _
  · exact failsWithin_ofParts _
  · trivial

theorem failsWithin_bytes (v : Value) : FailsWithin OfItem (bytes v) := by
  unfold bytes
  split <;> trivial

theorem failsWithin_setOf {readItem : Value → Except Failure Value}
    (h : ∀ e, FailsWithin OfItem (readItem e)) (v : Value) :
    FailsWithin OfItem (setOf readItem v) := by
  refine v.ofItem_elements.bind fun es => ?_
  refine (FailsWithin.foldlM (fun acc e => ?_) es []).bind fun items => trivial
  exact (h e).bind fun item => item.failsWithin_checkHashable.bind fun _ => trivial

theorem failsWithin_scalar (tag : Tag) (v : Value) : FailsWithin OfItem (scalar tag v) := by
  cases tag with
  | null | bool | text | list | map => trivial
  | number => exact (failsWithin_number v).map _
  | bytes => exact failsWithin_bytes v
  | textSet =>
    have hmember (e : Value) : FailsWithin OfItem (Except.ok e) := trivial
    exact failsWithin_setOf hmember v
  | numberSet => exact failsWithin_setOf (fun e => (failsWithin_number e).map _) v
  | bytesSet => exact failsWithin_setOf failsWithin_bytes v

theorem failsWithin_emptyList (v : Value) :
    FailsWithin OfItem (do
      let es ← v.elements
      match es with
      | [] => return Value.list []
      | e :: _ => throw (notAttribute e)) := by
  refine v.ofItem_elements.bind fun es => ?_
  cases es with
  | nil => trivial
  | cons e es => exact failsWithin_notAttribute e

mutual

theorem failsWithin_read (v : Value) : FailsWithin OfItem (read v) := by
  cases v with
  | map kind entries =>
    cases entries with
    | nil =>
      unfold read
      exact failsWithin_notAttribute _
    | cons entry rest =>
      obtain ⟨key, content⟩ := entry
      unfold read
      cases htag : tagOf key with
      | error e => exact (failsWithin_tagOf key).of_eq_error htag
      | ok tag =>
        cases tag with
        | list =>
          cases content with
          | seq _ items => exact (failsWithin_readEach items).map _
          | map _ entries => exact (failsWithin_readKeys entries).map _
          | _ => exact failsWithin_emptyList _
        | map =>
          cases content with
          | map _ entries => exact (failsWithin_readEntries entries).map _
          | _ => trivial
        | _ => exact failsWithin_scalar _ content
  | _ =>
    unfold read
    exact failsWithin_notAttribute _

theorem failsWithin_readEach : (vs : List Value) → FailsWithin OfItem (readEach vs)
  | [] => trivial
  | v :: vs => by
    rw [readEach]
    exact (failsWithin_read v).bind fun _ => (failsWithin_readEach vs).bind fun _ => trivial

theorem failsWithin_readKeys : (es : List (Value × Value)) → FailsWithin OfItem (readKeys es)
  | [] => trivial
  | (k, v) :: es => by
    rw [readKeys]
    exact (failsWithin_read k).bind fun _ => (failsWithin_readKeys es).bind fun _ => trivial

theorem failsWithin_readEntries : (es : List (Value × Value)) → FailsWithin OfItem (readEntries es)
  | [] => trivial
  | (k, v) :: es => by
    rw [readEntries]
    exact (failsWithin_read v).bind fun _ => (failsWithin_readEntries es).bind fun _ => trivial

end

end Attribute

namespace Item

mutual

theorem failsWithin_decode (v : Value) : FailsWithin OfItem (decode v) := by
  unfold decode
  split
  · split <;> trivial
  · trivial
  · exact (failsWithin_decodeEntries _).map _
  · exact (failsWithin_decodeEach _).map _
  · exact (failsWithin_decodeEach _).bind fun decoded => (Value.failsWithin_sort decoded).map _
  · exact (failsWithin_decodeEach _).bind fun decoded => (Value.failsWithin_sort decoded).map _
  · trivial

theorem failsWithin_decodeEach (vs : List Value) : FailsWithin OfItem (decodeEach vs) := by
  cases vs with
  | nil => trivial
  | cons v vs =>
    rw [decodeEach]
    exact (failsWithin_decode v).bind fun _ => (failsWithin_decodeEach vs).bind fun _ => trivial

theorem failsWithin_decodeEntries (es : List (Value × Value)) :
    FailsWithin OfItem (decodeEntries es) := by
  cases es with
  | nil => trivial
  | cons e es =>
    obtain ⟨k, v⟩ := e
    rw [decodeEntries]
    exact (failsWithin_decode v).bind fun _ => (failsWithin_decodeEntries es).bind fun _ => trivial

end

theorem failsWithin_ofWire (item : Value) : FailsWithin OfItem (ofWire item) := by
  have hitems : FailsWithin OfItem item.items := by
    unfold Value.items
    split <;> trivial
  exact hitems.bind fun entries =>
    (Attribute.failsWithin_readEntries entries).bind fun attributes =>
      failsWithin_decode (.map .plain attributes)

end Item

end TabularSchema
