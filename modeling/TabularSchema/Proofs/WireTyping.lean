import TabularSchema.Proofs.ItemDecoding

/-!
# Types read off the wire form of an item

`Wire` is an attribute as a table service writes it. Its type can be read off its tags and the texts
of its numbers, without reading or decoding anything: `Wire.type`. Main statement: where an item can
be read and decoded, this is the type inferred for the document it becomes.
-/

namespace TabularSchema

/-- An attribute in its wire form, by its tag. -/
inductive Wire where
  | null
  | bool (b : Bool)
  | text (s : String)
  | number (s : String)
  | bytes (data : List UInt8)
  | textSet (members : List String)
  | numberSet (members : List String)
  | bytesSet (members : List (List UInt8))
  | list (members : List Wire)
  | map (entries : List (String × Wire))

namespace Wire

def IsLeaf : Wire → Prop
  | .list _ => False
  | .map _ => False
  | _ => True

/-- No map inside the attribute has a name twice. -/
inductive WellFormed : Wire → Prop
  | leaf {w : Wire} : w.IsLeaf → WellFormed w
  | list {members : List Wire} : (∀ w ∈ members, WellFormed w) → WellFormed (.list members)
  | map {entries : List (String × Wire)} :
    (entries.map Prod.fst).Nodup → (∀ e ∈ entries, WellFormed e.2) → WellFormed (.map entries)

/-- Induction on an attribute, where the attributes inside are given by membership. -/
@[elab_as_elim]
theorem inductionOn {P : Wire → Prop} (leaf : ∀ w : Wire, w.IsLeaf → P w)
    (list : ∀ members : List Wire, (∀ w ∈ members, P w) → P (.list members))
    (map : ∀ entries : List (String × Wire), (∀ e ∈ entries, P e.2) → P (.map entries))
    (w : Wire) : P w :=
  @Wire.rec P (fun members => ∀ w ∈ members, P w) (fun entries => ∀ e ∈ entries, P e.2)
    (fun e => P e.2) (leaf _ trivial) (fun _ => leaf _ trivial) (fun _ => leaf _ trivial)
    (fun _ => leaf _ trivial) (fun _ => leaf _ trivial) (fun _ => leaf _ trivial)
    (fun _ => leaf _ trivial) (fun _ => leaf _ trivial) list map (by simp)
    (fun _ _ hw hws => List.forall_mem_cons.2 ⟨hw, hws⟩) (by simp)
    (fun _ _ he hes => List.forall_mem_cons.2 ⟨he, hes⟩) (fun _ _ h => h) w

def tagName : Attribute.Tag → String
  | .null => "NULL"
  | .bool => "BOOL"
  | .text => "S"
  | .number => "N"
  | .bytes => "B"
  | .textSet => "SS"
  | .numberSet => "NS"
  | .bytesSet => "BS"
  | .list => "L"
  | .map => "M"

def tagged (tag : Attribute.Tag) (content : Value) : Value :=
  .map .plain [(.text (tagName tag), content)]

mutual

def toValue : Wire → Value
  | .null => tagged .null (.bool true)
  | .bool b => tagged .bool (.bool b)
  | .text s => tagged .text (.text s)
  | .number s => tagged .number (.text s)
  | .bytes data => tagged .bytes (.bytes .fixed data)
  | .textSet members => tagged .textSet (.list (members.map .text))
  | .numberSet members => tagged .numberSet (.list (members.map .text))
  | .bytesSet members => tagged .bytesSet (.list (members.map (.bytes .fixed)))
  | .list members => tagged .list (.list (toValues members))
  | .map entries => tagged .map (.map .plain (toEntries entries))

def toValues : List Wire → List Value
  | [] => []
  | w :: ws => toValue w :: toValues ws

def toEntries : List (String × Wire) → List (Value × Value)
  | [] => []
  | (name, w) :: es => (.text name, toValue w) :: toEntries es

end

def isNull : Wire → Bool
  | .null => true
  | _ => false

/-- The type of a number by its text: the integers of 32 bits, those of 64 bits, and all else. -/
def numberType (s : String) : DataType :=
  if Numeral.DenotesWithin s (-2 ^ 31) (2 ^ 31) then .integer
  else if Numeral.DenotesWithin s (-2 ^ 63) (2 ^ 63) then .long
  else .decimal

/-- The type of a set with members of the given types. -/
def setType (members : List DataType) : DataType :=
  .array (members.foldl DataType.join .null) false

mutual

/-- The type of what an attribute becomes in a document. -/
def type : Wire → DataType
  | .null => .null
  | .bool _ => .boolean
  | .text _ => .string
  | .number s => numberType s
  | .bytes _ => .binary
  | .textSet members => setType (members.map fun _ => .string)
  | .numberSet members => setType (members.map numberType)
  | .bytesSet members => setType (members.map fun _ => .binary)
  | .list members =>
    .array ((presentTypes members).foldl DataType.join .null) (members.any isNull)
  | .map entries => .struct (Field.sort (fields entries))

def presentTypes : List Wire → List DataType
  | [] => []
  | w :: ws => if w.isNull then presentTypes ws else type w :: presentTypes ws

def fields : List (String × Wire) → List Field
  | [] => []
  | (name, w) :: es => (name, type w) :: fields es

end

theorem numberType_eq (s : String) :
    numberType s =
      (((Decimal.parse? s).bind Decimal.toInt?).map DataType.ofIntRange).getD .decimal := by
  unfold numberType
  simp only [Numeral.denotesWithin_iff]
  cases (Decimal.parse? s).bind Decimal.toInt? with
  | none => simp
  | some n => simp [DataType.ofIntRange]

/-- A document value is of the type that is read off an attribute, and null only if that is. -/
structure Describes (w : Wire) (u : Value) : Prop where
  named : u.Named
  isNull_eq : u.isNull = w.isNull
  typeOf_eq : u.typeOf = w.type

section Leaves

open Attribute

theorem tagOf_tagName (tag : Tag) : tagOf (.text (tagName tag)) = .ok tag := by
  cases tag <;> decide +kernel

theorem read_tagged {tag : Tag} (h : tag ≠ .list ∧ tag ≠ .map) (content : Value) :
    Attribute.read (tagged tag content) = scalar tag content := by
  unfold tagged Attribute.read
  rw [tagOf_tagName]
  cases tag with
  | list => exact absurd rfl h.1
  | map => exact absurd rfl h.2
  | _ => rfl

theorem read_list (items : List Value) :
    Attribute.read (tagged .list (.list items)) = (readEach items).map .list := by
  rw [tagged, Attribute.read, tagOf_tagName]

theorem read_map (entries : List (Value × Value)) :
    Attribute.read (tagged .map (.map .plain entries)) =
      (readEntries entries).map (.map .plain) := by
  rw [tagged, Attribute.read, tagOf_tagName]

/-- The table value becomes a document value of the given type, and no null. -/
def DecodesTo (x : Value) (t : DataType) : Prop :=
  ∃ u, Item.decode x = .ok u ∧ u.Named ∧ u.isNull = false ∧ u.typeOf = t

theorem DecodesTo.of_eq_ok {x u : Value} {t : DataType} (h : DecodesTo x t)
    (hu : Item.decode x = .ok u) : u.Named ∧ u.isNull = false ∧ u.typeOf = t := by
  obtain ⟨u', hu', htyped⟩ := h
  rw [hu] at hu'
  obtain rfl := Except.ok.inj hu'
  exact htyped

theorem DecodesTo.unique {x : Value} {t t' : DataType} (h : DecodesTo x t) (h' : DecodesTo x t') :
    t = t' := by
  obtain ⟨u, hu, -, -, rfl⟩ := h
  exact (h'.of_eq_ok hu).2.2

section Sets

variable {α : Type} {readItem : Value → Except Failure Value} {write : α → Value}
  (memberType : α → DataType)

/-- A set has the types of its members if equal members have one type, although of these only the
first is kept. -/
theorem typeOf_decode_set
    (hdecode : ∀ m x, readItem (write m) = .ok x → DecodesTo x (memberType m))
    (hsame : ∀ m m' x x', readItem (write m) = .ok x → readItem (write m') = .ok x' →
      x.same x' = true → memberType m = memberType m')
    {members : List α} {v u : Value} (hv : setOf readItem (.list (members.map write)) = .ok v)
    (hu : Item.decode v = .ok u) :
    u.Named ∧ u.isNull = false ∧ u.typeOf = setType (members.map memberType) := by
  obtain ⟨items, rfl, hfrom, hinto⟩ := setOf_list_eq_ok hv
  obtain ⟨decoded, sorted, hdecoded, hperm, rfl⟩ := Item.decode_set_eq_ok hu
  have hitem : ∀ x ∈ items, ∃ m ∈ members, readItem (write m) = .ok x := by
    intro x hx
    obtain ⟨e, he, hread⟩ := hfrom x hx
    obtain ⟨m, hm, rfl⟩ := List.mem_map.1 he
    exact ⟨m, hm, hread⟩
  have hsorted : ∀ u ∈ sorted,
      u.Named ∧ u.isNull = false ∧ ∃ m ∈ members, memberType m = u.typeOf := by
    intro u hu
    obtain ⟨x, hx, hxu⟩ := exists_of_mapM_eq_ok hdecoded u (hperm.mem_iff.1 hu)
    obtain ⟨m, hm, hread⟩ := hitem x hx
    obtain ⟨hnamed, hnull, htype⟩ := (hdecode m x hread).of_eq_ok hxu
    exact ⟨hnamed, hnull, m, hm, htype.symm⟩
  have htypes : ∀ t, t ∈ sorted.map Value.typeOf ↔ t ∈ members.map memberType := by
    intro t
    constructor
    · intro ht
      obtain ⟨u, hu, rfl⟩ := List.mem_map.1 ht
      exact List.mem_map.2 (hsorted u hu).2.2
    · intro ht
      obtain ⟨m, hm, rfl⟩ := List.mem_map.1 ht
      obtain ⟨x, hx, y, hy, hxy⟩ := hinto (write m) (List.mem_map_of_mem hm)
      -- The item that stands for this member may be what an equal member is read as.
      obtain ⟨m', -, hread⟩ := hitem y hy
      have hmm' : memberType m' = memberType m := by
        rcases hxy with rfl | hxy
        · exact (hdecode m' y hread).unique (hdecode m y hx)
        · exact hsame m' m y x hread hx hxy
      obtain ⟨u, hmem, hu⟩ := exists_result_of_mapM_eq_ok hdecoded y hy
      obtain ⟨-, -, htype⟩ := (hdecode m' y hread).of_eq_ok hu
      exact List.mem_map.2 ⟨u, hperm.mem_iff.2 hmem, htype.trans hmm'⟩
  have hnull : sorted.any Value.isNull = false := by
    simpa using fun u hu => (hsorted u hu).2.1
  refine ⟨Value.named_seq_iff.2 fun u hu => (hsorted u hu).1, rfl, ?_⟩
  rw [setType, Value.typeOf_seq_eq, hnull,
    DataType.foldl_join_congr (Value.wellFormed_map_typeOf sorted) htypes]

end Sets

theorem decodesTo_text (s : String) : DecodesTo (.text s) .string :=
  ⟨.text s, rfl, .scalar trivial, rfl, rfl⟩

theorem decodesTo_wrapped (data : List UInt8) : DecodesTo (.wrapped .fixed data) .binary :=
  ⟨.bytes .fixed data, rfl, .scalar trivial, rfl, rfl⟩

theorem decodesTo_decimal {s : String} {d : Decimal} (h : readNumber s = .ok d) :
    DecodesTo (.decimal d) (numberType s) := by
  rw [numberType_eq, ← toInt?_of_readNumber h]
  refine ⟨_, Item.decode_decimal d, ?_⟩
  cases d.toInt? with
  | none => exact ⟨.scalar trivial, rfl, rfl⟩
  | some n => exact ⟨.scalar trivial, rfl, rfl⟩

theorem numberType_eq_of_same {s s' : String} {d d' : Decimal} (hd : readNumber s = .ok d)
    (hd' : readNumber s' = .ok d') (h : d.same d' = true) : numberType s = numberType s' := by
  have hint : d.toInt? = d'.toInt? :=
    Decimal.toInt?_eq_of_toRat?_eq (Decimal.toRat?_eq_of_same h)
  rw [numberType_eq, numberType_eq, ← toInt?_of_readNumber hd, ← toInt?_of_readNumber hd', hint]

theorem describes_of_typed {w : Wire} {u : Value} {t : DataType}
    (h : u.Named ∧ u.isNull = false ∧ u.typeOf = t) (hnull : w.isNull = false) (ht : w.type = t) :
    w.Describes u := ⟨h.1, h.2.1.trans hnull.symm, h.2.2.trans ht.symm⟩

theorem DecodesTo.describes {w : Wire} {x u : Value} (h : DecodesTo x w.type)
    (hw : w.isNull = false) (hu : Item.decode x = .ok u) : w.Describes u :=
  describes_of_typed (h.of_eq_ok hu) hw rfl

theorem describes_of_leaf {w : Wire} (hw : w.IsLeaf) {v u : Value}
    (hv : Attribute.read w.toValue = .ok v) (hu : Item.decode v = .ok u) : w.Describes u := by
  cases w with
  | null =>
    rw [toValue, read_tagged (by decide)] at hv
    obtain rfl := Except.ok.inj hv
    obtain rfl := Except.ok.inj hu
    exact ⟨.scalar trivial, rfl, rfl⟩
  | bool b =>
    rw [toValue, read_tagged (by decide)] at hv
    obtain rfl := Except.ok.inj hv
    obtain rfl := Except.ok.inj hu
    exact ⟨.scalar trivial, rfl, rfl⟩
  | text s =>
    rw [toValue, read_tagged (by decide)] at hv
    obtain rfl := Except.ok.inj hv
    exact (decodesTo_text s).describes rfl hu
  | number s =>
    rw [toValue, read_tagged (by decide)] at hv
    obtain ⟨d, hd, rfl⟩ := map_eq_ok_iff.1 hv
    exact (decodesTo_decimal hd).describes rfl hu
  | bytes data =>
    rw [toValue, read_tagged (by decide)] at hv
    obtain rfl := Except.ok.inj hv
    exact (decodesTo_wrapped data).describes rfl hu
  | textSet members =>
    rw [toValue, read_tagged (by decide), scalar] at hv
    refine describes_of_typed (typeOf_decode_set (fun _ => .string) ?_ ?_ hv hu) rfl rfl
    · intro s x hx
      obtain rfl := Except.ok.inj hx
      exact decodesTo_text s
    · intros
      rfl
  | numberSet members =>
    rw [toValue, read_tagged (by decide), scalar] at hv
    have hread (s : String) (x : Value) (hx : (Attribute.number (.text s)).map .decimal = .ok x) :
        ∃ d, readNumber s = .ok d ∧ x = .decimal d := by
      obtain ⟨d, hd, rfl⟩ := map_eq_ok_iff.1 hx
      exact ⟨d, hd, rfl⟩
    refine describes_of_typed (typeOf_decode_set numberType ?_ ?_ hv hu) rfl rfl
    · intro s x hx
      obtain ⟨d, hd, rfl⟩ := hread s x hx
      exact decodesTo_decimal hd
    · intro s s' x x' hx hx' h
      obtain ⟨d, hd, rfl⟩ := hread s x hx
      obtain ⟨d', hd', rfl⟩ := hread s' x' hx'
      exact numberType_eq_of_same hd hd' (by simpa [Value.same, Value.number?] using h)
  | bytesSet members =>
    rw [toValue, read_tagged (by decide), scalar] at hv
    refine describes_of_typed (typeOf_decode_set (fun _ => .binary) ?_ ?_ hv hu) rfl rfl
    · intro data x hx
      obtain rfl := Except.ok.inj hx
      exact decodesTo_wrapped data
    · intros
      rfl
  | list members => exact hw.elim
  | map entries => exact hw.elim

end Leaves

section Trees

open Attribute Item

/-- Every document value that an attribute becomes is of the type read off the attribute. -/
def Predicts (w : Wire) : Prop :=
  ∀ v u, Attribute.read w.toValue = .ok v → decode v = .ok u → w.Describes u

theorem describes_each {members : List Wire} (hmembers : ∀ w ∈ members, w.Predicts)
    {vs us : List Value} (hvs : readEach (toValues members) = .ok vs)
    (hus : decodeEach vs = .ok us) : List.Forall₂ Describes members us := by
  induction members generalizing vs us with
  | nil =>
    obtain rfl := Except.ok.inj hvs
    obtain rfl := Except.ok.inj hus
    exact .nil
  | cons w ws ih =>
    obtain ⟨hw, hws⟩ := List.forall_mem_cons.1 hmembers
    rw [toValues, readEach] at hvs
    obtain ⟨v, hv, hvs⟩ := bind_eq_ok_iff.1 hvs
    obtain ⟨vs', hvs', hvs⟩ := bind_eq_ok_iff.1 hvs
    obtain rfl := Except.ok.inj hvs
    rw [decodeEach] at hus
    obtain ⟨u, hu, hus⟩ := bind_eq_ok_iff.1 hus
    obtain ⟨us', hus', hus⟩ := bind_eq_ok_iff.1 hus
    obtain rfl := Except.ok.inj hus
    exact .cons (hw v u hv hu) (ih hws hvs' hus')

/-- An entry of a document stands for an entry of an item under the same name. -/
def DescribesEntry (e : String × Wire) (f : Value × Value) : Prop :=
  f.1 = .text e.1 ∧ e.2.Describes f.2

theorem describes_entries {entries : List (String × Wire)}
    (hentries : ∀ e ∈ entries, e.2.Predicts) {attributes fs : List (Value × Value)}
    (hread : readEntries (toEntries entries) = .ok attributes)
    (hdecode : decodeEntries attributes = .ok fs) : List.Forall₂ DescribesEntry entries fs := by
  induction entries generalizing attributes fs with
  | nil =>
    obtain rfl := Except.ok.inj hread
    obtain rfl := Except.ok.inj hdecode
    exact .nil
  | cons e es ih =>
    obtain ⟨name, w⟩ := e
    obtain ⟨hw, hes⟩ := List.forall_mem_cons.1 hentries
    rw [toEntries, readEntries] at hread
    obtain ⟨v, hv, hread⟩ := bind_eq_ok_iff.1 hread
    obtain ⟨rest, hrest, hread⟩ := bind_eq_ok_iff.1 hread
    obtain rfl := Except.ok.inj hread
    rw [decodeEntries] at hdecode
    obtain ⟨u, hu, hdecode⟩ := bind_eq_ok_iff.1 hdecode
    obtain ⟨fs', hfs', hdecode⟩ := bind_eq_ok_iff.1 hdecode
    obtain rfl := Except.ok.inj hdecode
    exact .cons ⟨rfl, hw v u hv hu⟩ (ih hes hrest hfs')

theorem named_of_describes {members : List Wire} {us : List Value}
    (h : List.Forall₂ Describes members us) : ∀ u ∈ us, u.Named := by
  induction h with
  | nil => simp
  | cons hu _ ih => exact List.forall_mem_cons.2 ⟨hu.named, ih⟩

/-- Nulls say nothing about the type of the other members. -/
theorem foldl_join_of_describes {members : List Wire} {us : List Value}
    (h : List.Forall₂ Describes members us) (t : DataType) :
    (us.map Value.typeOf).foldl DataType.join t = (presentTypes members).foldl DataType.join t := by
  induction h generalizing t with
  | nil => rfl
  | @cons w u ws us hu _ ih =>
    rw [List.map_cons, List.foldl_cons, hu.typeOf_eq, ih, presentTypes]
    split
    · next hnull =>
      have hw : w = .null := by
        cases w <;> first | rfl | cases hnull
      rw [hw, type, DataType.join_null]
    · rfl

theorem any_isNull_of_describes {members : List Wire} {us : List Value}
    (h : List.Forall₂ Describes members us) : us.any Value.isNull = members.any isNull := by
  induction h with
  | nil => rfl
  | cons hu _ ih => rw [List.any_cons, List.any_cons, hu.isNull_eq, ih]

theorem map_entryField_of_describes {entries : List (String × Wire)} {fs : List (Value × Value)}
    (h : List.Forall₂ DescribesEntry entries fs) : fs.map Value.entryField = fields entries := by
  induction h with
  | nil => rfl
  | @cons e f es fs hf _ ih =>
    have hentry : Value.entryField f = (e.1, e.2.type) := by
      rw [Value.entryField, hf.1, hf.2.typeOf_eq]
      rfl
    rw [List.map_cons, hentry, ih, fields]

theorem named_of_describesEntry {entries : List (String × Wire)} {fs : List (Value × Value)}
    (h : List.Forall₂ DescribesEntry entries fs) :
    ∀ f ∈ fs, f.1.fieldName = .ok f.1.plainText ∧ f.2.Named := by
  induction h with
  | nil => simp
  | @cons e f es fs hf _ ih =>
    refine List.forall_mem_cons.2 ⟨⟨?_, hf.2.named⟩, ih⟩
    rw [hf.1]
    rfl

theorem map_fst_fields (entries : List (String × Wire)) :
    FieldTypes.names (fields entries) = entries.map Prod.fst := by
  induction entries with
  | nil => rfl
  | cons e es ih =>
    rw [fields, List.map_cons, ← ih]
    rfl

theorem describes_of_entries {entries : List (String × Wire)}
    (hnames : (entries.map Prod.fst).Nodup) {fs : List (Value × Value)}
    (h : List.Forall₂ DescribesEntry entries fs) :
    (Wire.map entries).Describes (.map .plain fs) := by
  have hdistinct : FieldTypes.Distinct (fields entries) := by
    rw [FieldTypes.Distinct, map_fst_fields]
    exact hnames
  refine ⟨Value.named_map_iff.2 (named_of_describesEntry h), rfl, ?_⟩
  rw [Value.typeOf_map, map_entryField_of_describes h, FieldTypes.merge_nil_of_distinct hdistinct,
    type]

theorem predicts_of_wellFormed {w : Wire} (hw : w.WellFormed) : w.Predicts := by
  induction w using inductionOn with
  | leaf w hleaf => exact fun v u => describes_of_leaf hleaf
  | list members ih =>
    intro v u hv hu
    have hmembers : ∀ w ∈ members, w.Predicts := by
      cases hw with
      | leaf h => exact h.elim
      | list h => exact fun w hw => ih w hw (h w hw)
    rw [toValue, read_list] at hv
    obtain ⟨vs, hvs, rfl⟩ := map_eq_ok_iff.1 hv
    rw [decode] at hu
    obtain ⟨us, hus, rfl⟩ := map_eq_ok_iff.1 hu
    have h := describes_each hmembers hvs hus
    refine ⟨Value.named_seq_iff.2 (named_of_describes h), rfl, ?_⟩
    rw [Value.typeOf_seq_eq, foldl_join_of_describes h, any_isNull_of_describes h, type]
  | map entries ih =>
    intro v u hv hu
    rw [toValue, read_map] at hv
    obtain ⟨attributes, hread, rfl⟩ := map_eq_ok_iff.1 hv
    rw [decode] at hu
    obtain ⟨fs, hfs, rfl⟩ := map_eq_ok_iff.1 hu
    cases hw with
    | leaf h => exact h.elim
    | map hnames h =>
      exact describes_of_entries hnames
        (describes_entries (fun e he => ih e he (h e he)) hread hfs)

end Trees

end Wire

/-- The type inferred for the document that an item becomes is the one read off its wire form. -/
theorem Item.inferType_ofWire (entries : List (String × Wire)) (h : (Wire.map entries).WellFormed)
    (document : Value) (hread : ofWire (.map .plain (Wire.toEntries entries)) = .ok document) :
    document.inferType = .ok (Wire.map entries).type := by
  obtain ⟨es, hes, hread⟩ := bind_eq_ok_iff.1 hread
  obtain rfl := Except.ok.inj hes
  obtain ⟨attributes, hattributes, hdecode⟩ := bind_eq_ok_iff.1 hread
  have hattribute : Attribute.read (Wire.map entries).toValue = .ok (.map .plain attributes) := by
    rw [Wire.toValue, Wire.read_map, hattributes]
    rfl
  have hdocument := Wire.predicts_of_wellFormed h _ _ hattribute hdecode
  rcases document.inferType_ok_or_textless with ⟨_, htype⟩ | ⟨hnot, _⟩
  · rw [htype, hdocument.typeOf_eq]
  · exact absurd hdocument.named hnot

theorem Item.inferType_ofWire_nested :
    let entries : List (String × Wire) :=
      [("whole", .numberSet ["1E+3", "10.00", "1000", "2147483648"]),
        ("zero", .number "-0.0"),
        ("tenth", .number "1e-1"),
        ("edge", .number "-2147483648"),
        ("rows", .list [.map [("id", .number "٣"), ("data", .bytes [0, 255])], .null,
          .map [("id", .number "9223372036854775808"), ("tags", .textSet ["b", "a", "b"])]]),
        ("none", .bytesSet [])]
    (Wire.map entries).WellFormed ∧
      ∃ document, ofWire (.map .plain (Wire.toEntries entries)) = .ok document ∧
        document.inferType = .ok (.struct
          [("edge", .integer), ("none", .array .null false),
            ("rows", .array (.struct [("data", .binary), ("id", .decimal),
              ("tags", .array .string false)]) true),
            ("tenth", .decimal), ("whole", .array .long false), ("zero", .integer)]) := by
  intro entries
  have hrow (entries : List (String × Wire)) (hnames : (entries.map Prod.fst).Nodup)
      (hleaf : ∀ e ∈ entries, e.2.IsLeaf) : (Wire.map entries).WellFormed :=
    .map hnames fun e he => .leaf (hleaf e he)
  have hwellFormed : (Wire.map entries).WellFormed := by
    refine .map (by decide) ?_
    simp only [entries, List.forall_mem_cons]
    refine ⟨.leaf trivial, .leaf trivial, .leaf trivial, .leaf trivial, .list ?_, .leaf trivial,
      by simp⟩
    simp only [List.forall_mem_cons]
    exact ⟨hrow _ (by decide) (by simp [Wire.IsLeaf]), .leaf trivial,
      hrow _ (by decide) (by simp [Wire.IsLeaf]), by simp⟩
  have hok : (ofWire (.map .plain (Wire.toEntries entries))).isOk = true := by decide +kernel
  obtain ⟨document, hdocument⟩ := exists_of_isOk hok
  refine ⟨hwellFormed, document, hdocument, ?_⟩
  rw [inferType_ofWire entries hwellFormed document hdocument]
  decide +kernel

end TabularSchema
