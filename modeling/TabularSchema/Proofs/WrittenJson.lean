import TabularSchema.Json.Document
import TabularSchema.Proofs.Sequencing
import TabularSchema.Proofs.WideningOrder
import TabularSchema.Service

/-!
# Written JSON is read back

A tree without numbers is written in printable ASCII and read back as it was. The escapes of a text
give back its sixteen bit units and the units its characters, for every character there is. The
notation of a schema has no numbers, so whoever reads the answer of an inference tool has the
schema, with its fields in their order.
-/

namespace TabularSchema

namespace Text

theorem hexDigit?_digitChar : ∀ n < 16, hexDigit? (Nat.digitChar n) = some n := by decide

theorem toNat_digitChar : ∀ n < 16, 0x20 ≤ (Nat.digitChar n).toNat ∧
    (Nat.digitChar n).toNat ≤ 0x7e := by decide

theorem hex_one {n : Nat} (h : n < 16) : hex 1 n = [Nat.digitChar n] := by
  simp [hex, Nat.toDigits_of_lt_base h]

theorem hex_succ {width : Nat} (hw : 0 < width) (n : Nat) :
    hex (width + 1) n = hex width (n / 16) ++ [Nat.digitChar (n % 16)] := by
  by_cases hn : n < 16
  · have hdiv : n / 16 = 0 := by omega
    have hmod : n % 16 = n := by omega
    obtain ⟨k, rfl⟩ : ∃ k, width = k + 1 := ⟨width - 1, by omega⟩
    rw [hdiv, hmod, hex, hex, Nat.toDigits_of_lt_base hn]
    simp [List.replicate_succ']
  · have hdigits := Nat.toDigits_of_base_le (b := 16) (by omega) (not_lt.1 hn)
    rw [hex, hex, hdigits]
    simp

theorem hex_four (n : Nat) (h : n < 0x10000) :
    hex 4 n = [Nat.digitChar (n / 16 / 16 / 16), Nat.digitChar (n / 16 / 16 % 16),
      Nat.digitChar (n / 16 % 16), Nat.digitChar (n % 16)] := by
  have hhead : n / 16 / 16 / 16 < 16 := by omega
  rw [hex_succ (by omega), hex_succ (by omega), hex_succ (by omega), hex_one hhead]
  rfl

theorem hexFour?_digits (n : Nat) (h : n < 0x10000) :
    hexFour? (Nat.digitChar (n / 16 / 16 / 16)) (Nat.digitChar (n / 16 / 16 % 16))
      (Nat.digitChar (n / 16 % 16)) (Nat.digitChar (n % 16)) = some n := by
  have hvalue :
      ((n / 16 / 16 / 16 * 16 + n / 16 / 16 % 16) * 16 + n / 16 % 16) * 16 + n % 16 = n := by
    omega
  rw [hexFour?, hexDigit?_digitChar _ (by omega), hexDigit?_digitChar _ (by omega),
    hexDigit?_digitChar _ (by omega), hexDigit?_digitChar _ (by omega)]
  exact congrArg some hvalue

def unitsOf (c : Char) : List Nat :=
  if c.toNat ≤ 0xffff then [c.toNat]
  else [(surrogatesOf c.toNat).1, (surrogatesOf c.toNat).2]

theorem toNat_not_surrogate (c : Char) : c.toNat < 0xd800 ∨ 0xdfff < c.toNat ∧ c.toNat < 0x110000 :=
  c.valid

theorem toNat_lt (c : Char) : c.toNat < 0x110000 := by
  have hc := toNat_not_surrogate c
  omega

theorem not_isHighSurrogate (c : Char) : isHighSurrogate c.toNat = false := by
  have hc := toNat_not_surrogate c
  rw [isHighSurrogate, decide_eq_false_iff_not]
  omega

theorem surrogatesOf_lt {n : Nat} (h : n < 0x110000) :
    (surrogatesOf n).1 < 0x10000 ∧ (surrogatesOf n).2 < 0x10000 := by
  rw [surrogatesOf]
  omega

theorem charOf_toNat (c : Char) : charOf c.toNat = c := by
  have hc := toNat_not_surrogate c
  have hlow : isLowSurrogate c.toNat = false := by
    rw [isLowSurrogate, decide_eq_false_iff_not]
    omega
  rw [charOf, not_isHighSurrogate, hlow]
  exact Char.ofNat_toNat c

theorem joinUnits_cons {n : Nat} (h : isHighSurrogate n = false) (ns : List Nat) :
    joinUnits (n :: ns) = charOf n :: joinUnits ns := by
  cases ns with
  | nil => rfl
  | cons m ns => simp [joinUnits, h]

theorem joinUnits_surrogates {n : Nat} (h : 0xffff < n) (hmax : n < 0x110000) (ns : List Nat) :
    joinUnits ((surrogatesOf n).1 :: (surrogatesOf n).2 :: ns) = Char.ofNat n :: joinUnits ns := by
  have hhigh : isHighSurrogate (surrogatesOf n).1 = true := by
    rw [surrogatesOf, isHighSurrogate, decide_eq_true_iff]
    omega
  have hlow : isLowSurrogate (surrogatesOf n).2 = true := by
    rw [surrogatesOf, isLowSurrogate, decide_eq_true_iff]
    omega
  have hcode : pairCode (surrogatesOf n).1 (surrogatesOf n).2 = n := by
    simp only [surrogatesOf, pairCode]
    omega
  rw [joinUnits, hhigh, hlow, hcode]
  rfl

theorem joinUnits_unitsOf (cs : List Char) : joinUnits (cs.flatMap unitsOf) = cs := by
  induction cs with
  | nil => rfl
  | cons c cs ih =>
    rw [List.flatMap_cons, unitsOf]
    split
    · rw [List.singleton_append, joinUnits_cons (not_isHighSurrogate c), charOf_toNat, ih]
    · next hc =>
      rw [List.cons_append, List.singleton_append, joinUnits_surrogates (by omega) (toNat_lt c),
        Char.ofNat_toNat, ih]

end Text

namespace Json

namespace Reader

theorem skipGap_cons {c : Char} (h : isGap c = false) (cs : List Char) :
    skipGap (c :: cs) = c :: cs := by
  rw [skipGap, List.dropWhile_cons_of_neg (by simp [h])]

theorem skipGap_blank (cs : List Char) : skipGap (' ' :: cs) = skipGap cs := rfl

theorem units_unitEscape {n : Nat} (h : n < 0x10000) (rest : List Char) :
    units (unitEscape n ++ rest) = (units rest).map fun p => (n :: p.1, p.2) := by
  rw [unitEscape, Text.hex_four n h]
  dsimp only [List.cons_append, List.nil_append]
  rw [units, if_neg (by decide), if_pos rfl, Text.hexFour?_digits n h]

theorem units_short {e : Char} {n : Nat} (he : e ≠ 'u') (h : shortEscape? e = some n)
    (rest : List Char) :
    units ('\\' :: e :: rest) = (units rest).map fun p => (n :: p.1, p.2) := by
  rw [units.eq_def]
  dsimp only
  rw [if_neg (by decide), if_pos rfl]
  split
  · next heq => exact absurd (List.cons.inj heq).1 he
  · next heq =>
    obtain ⟨rfl, rfl⟩ := List.cons.inj heq
    rw [h]
  · next heq => cases heq

theorem units_plain {c : Char} (hquote : c ≠ '\x22') (hslash : c ≠ '\\') (h : 0x20 ≤ c.toNat)
    (rest : List Char) : units (c :: rest) = (units rest).map fun p => (c.toNat :: p.1, p.2) := by
  have hctl : ¬ c.toNat < 0x20 := by omega
  rw [units.eq_def]
  dsimp only
  rw [if_neg hquote, if_neg hslash, if_neg hctl]

theorem units_escapeChar (c : Char) (rest : List Char) :
    units (escapeChar c ++ rest) = (units rest).map fun p => (Text.unitsOf c ++ p.1, p.2) := by
  have hshort {e : Char} (hc : c.toNat ≤ 0xffff) (he : e ≠ 'u')
      (h : shortEscape? e = some c.toNat) :
      units ('\\' :: e :: rest) = (units rest).map fun p => (Text.unitsOf c ++ p.1, p.2) := by
    rw [units_short he h, Text.unitsOf, if_pos hc]
    rfl
  unfold escapeChar
  split_ifs with hquote hn hr ht hb hf hprint hbmp
  · rcases hquote with rfl | rfl
    · exact hshort (by decide) (by decide) (by decide)
    · exact hshort (by decide) (by decide) (by decide)
  · subst hn
    exact hshort (by decide) (by decide) (by decide)
  · subst hr
    exact hshort (by decide) (by decide) (by decide)
  · subst ht
    exact hshort (by decide) (by decide) (by decide)
  · subst hb
    exact hshort (by decide) (by decide) (by decide)
  · subst hf
    exact hshort (by decide) (by decide) (by decide)
  · rw [not_or] at hquote
    rw [List.singleton_append, units_plain hquote.1 hquote.2 hprint.1, Text.unitsOf,
      if_pos (by omega)]
    rfl
  · rw [units_unitEscape (by omega), Text.unitsOf, if_pos hbmp]
    rfl
  · obtain ⟨hhigh, hlow⟩ := Text.surrogatesOf_lt (Text.toNat_lt c)
    rw [List.append_assoc, units_unitEscape hhigh, units_unitEscape hlow, Text.unitsOf,
      if_neg hbmp]
    cases units rest <;> rfl

theorem units_flatMap_escapeChar (cs rest : List Char) :
    units (cs.flatMap escapeChar ++ '\x22' :: rest) = .ok (cs.flatMap Text.unitsOf, rest) := by
  induction cs with
  | nil =>
    rw [List.flatMap_nil, List.nil_append, units.eq_def]
    rfl
  | cons c cs ih =>
    rw [List.flatMap_cons, List.append_assoc, units_escapeChar, ih, List.flatMap_cons]
    rfl

theorem text_quoted (s : String) (rest : List Char) :
    text (s.toList.flatMap escapeChar ++ '\x22' :: rest) = .ok (s, rest) := by
  have hunits := units_flatMap_escapeChar s.toList rest
  have hjoin := Text.joinUnits_unitsOf s.toList
  rw [text, hunits]
  change Except.ok (String.ofList (Text.joinUnits (s.toList.flatMap Text.unitsOf)), rest) = _
  rw [hjoin, String.ofList_toList]

end Reader

inductive Numberless : Json → Prop
  | null : Numberless .null
  | bool (b : Bool) : Numberless (.bool b)
  | text (s : String) : Numberless (.text s)
  | array {items : List Json} : (∀ j ∈ items, Numberless j) → Numberless (.array items)
  | object {members : List (String × Json)} :
    (∀ m ∈ members, Numberless m.2) → Numberless (.object members)

theorem Numberless.exists_head {j : Json} (h : j.Numberless) :
    ∃ c cs, j.chars = c :: cs ∧ Reader.isGap c = false ∧ c ≠ ']' := by
  cases h with
  | null => exact ⟨'n', _, rfl, by decide, by decide⟩
  | bool b =>
    cases b with
    | false => exact ⟨'f', _, rfl, by decide, by decide⟩
    | true => exact ⟨'t', _, rfl, by decide, by decide⟩
  | text s => exact ⟨'\x22', _, rfl, by decide, by decide⟩
  | array _ => exact ⟨'[', _, rfl, by decide, by decide⟩
  | object _ => exact ⟨'\x7b', _, rfl, by decide, by decide⟩

theorem Numberless.skipGap {j : Json} (h : j.Numberless) (rest : List Char) :
    Reader.skipGap (j.chars ++ rest) = j.chars ++ rest := by
  obtain ⟨c, cs, hj, hgap, -⟩ := h.exists_head
  rw [hj, List.cons_append, Reader.skipGap_cons hgap]

theorem joinParts_cons_cons (p q : List Char) (ps : List (List Char)) :
    joinParts (p :: q :: ps) = p ++ ',' :: ' ' :: joinParts (q :: ps) := rfl

theorem exists_joinParts_cons (p : List Char) (ps : List (List Char)) :
    ∃ tail, joinParts (p :: ps) = p ++ tail := by
  cases ps with
  | nil => exact ⟨[], (List.append_nil p).symm⟩
  | cons q ps => exact ⟨_, joinParts_cons_cons p q ps⟩

namespace Reader

/-- With two steps for each character, what is written of a tree is read back. -/
def ReadsBack (j : Json) : Prop :=
  ∀ fuel rest, 2 * j.chars.length ≤ fuel → value fuel (j.chars ++ rest) = .ok (j, rest)

/-- Between two parts only the blank is skipped. -/
theorem skipGap_joinParts {p : List Char} (h : ∀ rest, skipGap (p ++ rest) = p ++ rest)
    (ps : List (List Char)) (rest : List Char) :
    skipGap (' ' :: joinParts (p :: ps) ++ rest) = joinParts (p :: ps) ++ rest := by
  obtain ⟨tail, htail⟩ := exists_joinParts_cons p ps
  rw [htail, List.cons_append, skipGap_blank, List.append_assoc, h]

theorem items_item {j : Json} (hj : ReadsBack j) {fuel : Nat} (hfuel : 2 * j.chars.length ≤ fuel)
    (cs : List Char) :
    Reader.items (fuel + 1) (j.chars ++ cs) =
      match skipGap cs with
      | ']' :: rest => .ok ([j], rest)
      | ',' :: cs => (Reader.items fuel (skipGap cs)).map fun p => (j :: p.1, p.2)
      | _ => .error .malformedJson := by
  rw [Reader.items, hj fuel cs hfuel]
  change (match skipGap cs with
    | ']' :: rest => _
    | ',' :: cs => _
    | _ => _) = _
  split
  · rfl
  · cases Reader.items fuel (skipGap _) <;> rfl
  · rfl

theorem members_member {j : Json} (hnum : j.Numberless) (hj : ReadsBack j) {fuel : Nat}
    (hfuel : 2 * j.chars.length ≤ fuel) (k : String) (cs : List Char) :
    Reader.members (fuel + 1) (quoteChars k ++ ':' :: ' ' :: j.chars ++ cs) =
      match skipGap cs with
      | '\x7d' :: rest => .ok ([(k, j)], rest)
      | ',' :: cs => (Reader.members fuel (skipGap cs)).map fun p => ((k, j) :: p.1, p.2)
      | _ => .error .malformedJson := by
  have hkey : quoteChars k ++ ':' :: ' ' :: j.chars ++ cs =
      '\x22' :: (k.toList.flatMap escapeChar ++ '\x22' :: ':' :: ' ' :: (j.chars ++ cs)) := by
    simp [quoteChars]
  have hread : value fuel (skipGap (' ' :: (j.chars ++ cs))) = .ok (j, cs) := by
    rw [skipGap_blank, hnum.skipGap]
    exact hj fuel cs hfuel
  rw [hkey, Reader.members, text_quoted]
  change (value fuel (skipGap (' ' :: (j.chars ++ cs))) >>= fun _ => _) = _
  rw [hread]
  change (match skipGap cs with
    | '\x7d' :: rest => _
    | ',' :: cs => _
    | _ => _) = _
  split
  · rfl
  · cases Reader.members fuel (skipGap _) <;> rfl
  · rfl

theorem items_joinParts (items : List Json) (hne : items ≠ [])
    (h : ∀ j ∈ items, j.Numberless ∧ ReadsBack j) (fuel : Nat) (rest : List Char)
    (hfuel : 2 * (joinParts (itemChars items)).length < fuel) :
    Reader.items fuel (joinParts (itemChars items) ++ ']' :: rest) = .ok (items, rest) := by
  -- On the items. Each one takes a step, and its characters pay for that step twice over, so the
  -- steps that are left are enough for the others.
  induction items generalizing fuel with
  | nil => exact absurd rfl hne
  | cons j js ih =>
    obtain ⟨⟨-, hj⟩, hjs⟩ := List.forall_mem_cons.1 h
    obtain ⟨fuel, rfl⟩ : ∃ n, fuel = n + 1 := ⟨fuel - 1, by omega⟩
    cases js with
    | nil =>
      change 2 * j.chars.length < fuel + 1 at hfuel
      exact items_item hj (by omega) (']' :: rest)
    | cons k ks =>
      have hsplit : joinParts (itemChars (j :: k :: ks)) =
          j.chars ++ ',' :: ' ' :: joinParts (itemChars (k :: ks)) := rfl
      rw [hsplit, List.length_append, List.length_cons, List.length_cons] at hfuel
      have hgap : skipGap (' ' :: joinParts (itemChars (k :: ks)) ++ ']' :: rest) =
          joinParts (itemChars (k :: ks)) ++ ']' :: rest :=
        skipGap_joinParts (hjs k (by simp)).1.skipGap (itemChars ks) (']' :: rest)
      have hmore := ih (by simp) hjs fuel (by omega)
      rw [hsplit, List.append_assoc, items_item hj (by omega)]
      change (Reader.items fuel
        (skipGap (' ' :: joinParts (itemChars (k :: ks)) ++ ']' :: rest))).map
          (fun p => (j :: p.1, p.2)) = _
      rw [hgap, hmore]
      rfl

theorem members_joinParts (members : List (String × Json)) (hne : members ≠ [])
    (h : ∀ m ∈ members, m.2.Numberless ∧ ReadsBack m.2) (fuel : Nat) (rest : List Char)
    (hfuel : 2 * (joinParts (memberChars members)).length < fuel) :
    Reader.members fuel (joinParts (memberChars members) ++ '\x7d' :: rest) =
      .ok (members, rest) := by
  induction members generalizing fuel with
  | nil => exact absurd rfl hne
  | cons m ms ih =>
    obtain ⟨k, j⟩ := m
    obtain ⟨⟨hnum, hj⟩, hms⟩ := List.forall_mem_cons.1 h
    dsimp only at hnum hj
    obtain ⟨fuel, rfl⟩ : ∃ n, fuel = n + 1 := ⟨fuel - 1, by omega⟩
    have hlength : j.chars.length ≤ (quoteChars k ++ ':' :: ' ' :: j.chars).length := by
      simp only [List.length_append, List.length_cons]
      omega
    cases ms with
    | nil =>
      change 2 * (quoteChars k ++ ':' :: ' ' :: j.chars).length < fuel + 1 at hfuel
      exact members_member hnum hj (by omega) k ('\x7d' :: rest)
    | cons n ms =>
      have hsplit : joinParts (memberChars ((k, j) :: n :: ms)) =
          (quoteChars k ++ ':' :: ' ' :: j.chars) ++
            ',' :: ' ' :: joinParts (memberChars (n :: ms)) := rfl
      rw [hsplit, List.length_append, List.length_cons, List.length_cons] at hfuel
      have hgap : skipGap (' ' :: joinParts (memberChars (n :: ms)) ++ '\x7d' :: rest) =
          joinParts (memberChars (n :: ms)) ++ '\x7d' :: rest :=
        skipGap_joinParts (fun _ => skipGap_cons (by decide) _) (memberChars ms) ('\x7d' :: rest)
      have hmore := ih (by simp) hms fuel (by omega)
      rw [hsplit, List.append_assoc, members_member hnum hj (by omega)]
      change (Reader.members fuel
        (skipGap (' ' :: joinParts (memberChars (n :: ms)) ++ '\x7d' :: rest))).map
          (fun p => ((k, j) :: p.1, p.2)) = _
      rw [hgap, hmore]
      rfl

theorem readsBack_of_succ {j : Json} (h : j.Numberless)
    (hread : ∀ fuel rest, 2 * j.chars.length ≤ fuel + 1 →
      value (fuel + 1) (j.chars ++ rest) = .ok (j, rest)) : ReadsBack j := by
  intro fuel rest hfuel
  obtain ⟨c, cs, hhead, -⟩ := h.exists_head
  have hpos : 0 < j.chars.length := by simp [hhead]
  obtain ⟨fuel, rfl⟩ : ∃ n, fuel = n + 1 := ⟨fuel - 1, by omega⟩
  exact hread fuel rest hfuel

theorem readsBack_array {items : List Json} (h : ∀ j ∈ items, j.Numberless)
    (ih : ∀ j ∈ items, ReadsBack j) : ReadsBack (.array items) := by
  refine readsBack_of_succ (.array h) fun fuel rest hfuel => ?_
  cases items with
  | nil => rfl
  | cons j js =>
    obtain ⟨c, cs, hj, hgap, hclose⟩ := (h j (by simp)).exists_head
    obtain ⟨tail, htail⟩ := exists_joinParts_cons j.chars (itemChars js)
    have hhead : joinParts (itemChars (j :: js)) = c :: (cs ++ tail) := by
      rw [itemChars, htail, hj, List.cons_append]
    have hread := items_joinParts (j :: js) (by simp) (fun j hj => ⟨h j hj, ih j hj⟩) fuel rest (by
      simp only [chars, List.length_cons, List.length_append] at hfuel
      omega)
    have hchars : (Json.array (j :: js)).chars ++ rest =
        '[' :: (joinParts (itemChars (j :: js)) ++ ']' :: rest) := by simp [chars]
    rw [hchars, value]
    rw [hhead, List.cons_append] at hread ⊢
    rw [skipGap_cons hgap]
    dsimp only
    split
    · next heq =>
      exact absurd (List.cons.inj heq).1 hclose
    · rw [hread]
      rfl

theorem readsBack_object {members : List (String × Json)} (h : ∀ m ∈ members, m.2.Numberless)
    (ih : ∀ m ∈ members, ReadsBack m.2) : ReadsBack (.object members) := by
  refine readsBack_of_succ (.object h) fun fuel rest hfuel => ?_
  cases members with
  | nil => rfl
  | cons m ms =>
    obtain ⟨tail, htail⟩ :=
      exists_joinParts_cons (quoteChars m.1 ++ ':' :: ' ' :: m.2.chars) (memberChars ms)
    have hhead : ∃ cs, joinParts (memberChars (m :: ms)) = '\x22' :: cs :=
      ⟨_, by rw [memberChars, htail, quoteChars]; rfl⟩
    obtain ⟨cs, hhead⟩ := hhead
    have hread := members_joinParts (m :: ms) (by simp) (fun m hm => ⟨h m hm, ih m hm⟩) fuel rest
      (by
        simp only [chars, List.length_cons, List.length_append] at hfuel
        omega)
    have hchars : (Json.object (m :: ms)).chars ++ rest =
        '\x7b' :: (joinParts (memberChars (m :: ms)) ++ '\x7d' :: rest) := by simp [chars]
    rw [hchars, value]
    rw [hhead, List.cons_append] at hread ⊢
    rw [skipGap_cons (by decide)]
    change (Reader.members fuel ('\x22' :: (cs ++ '\x7d' :: rest))).map _ = _
    rw [hread]
    rfl

end Reader

theorem Numberless.readsBack {j : Json} (h : j.Numberless) : Reader.ReadsBack j := by
  induction h with
  | null => exact Reader.readsBack_of_succ .null fun _ _ _ => rfl
  | bool b => exact Reader.readsBack_of_succ (.bool b) fun _ _ _ => by cases b <;> rfl
  | text s =>
    refine Reader.readsBack_of_succ (.text s) fun fuel rest _ => ?_
    have hchars : (Json.text s).chars ++ rest =
        '\x22' :: (s.toList.flatMap escapeChar ++ '\x22' :: rest) := by simp [chars, quoteChars]
    rw [hchars, Reader.value, Reader.text_quoted]
    rfl
  | array h ih => exact Reader.readsBack_array h ih
  | object h ih => exact Reader.readsBack_object h ih

theorem Numberless.parse_write {j : Json} (h : j.Numberless) : parse j.write = .ok j := by
  have hread := h.readsBack (2 * j.chars.length + 2) [] (by omega)
  have hgap := h.skipGap []
  rw [List.append_nil] at hread hgap
  rw [write, parse]
  simp only [String.toList_ofList, hgap, hread]
  rfl

def Printable (c : Char) : Prop := 0x20 ≤ c.toNat ∧ c.toNat ≤ 0x7e

instance (c : Char) : Decidable (Printable c) :=
  inferInstanceAs (Decidable (0x20 ≤ c.toNat ∧ c.toNat ≤ 0x7e))

theorem printable_of_all {cs : List Char} (h : cs.all (fun c => decide (Printable c)) = true) :
    ∀ c ∈ cs, Printable c := by
  intro c hc
  exact of_decide_eq_true (List.all_eq_true.1 h c hc)

theorem printable_unitEscape {n : Nat} (h : n < 0x10000) : ∀ c ∈ unitEscape n, Printable c := by
  have hdigit (m : Nat) (hm : m < 16) : Printable (Nat.digitChar m) := Text.toNat_digitChar m hm
  rw [unitEscape, Text.hex_four n h]
  simp only [List.forall_mem_cons]
  exact ⟨by decide, by decide, hdigit _ (by omega), hdigit _ (by omega), hdigit _ (by omega),
    hdigit _ (by omega), by simp⟩

theorem printable_escapeChar (c : Char) : ∀ d ∈ escapeChar c, Printable d := by
  unfold escapeChar
  split_ifs with hquote hn hr ht hb hf hprint hbmp
  · rcases hquote with rfl | rfl <;> exact printable_of_all (by decide)
  · exact printable_of_all (by decide)
  · exact printable_of_all (by decide)
  · exact printable_of_all (by decide)
  · exact printable_of_all (by decide)
  · exact printable_of_all (by decide)
  · exact List.forall_mem_singleton.2 hprint
  · exact printable_unitEscape (by omega)
  · obtain ⟨hhigh, hlow⟩ := Text.surrogatesOf_lt (Text.toNat_lt c)
    exact List.forall_mem_append.2 ⟨printable_unitEscape hhigh, printable_unitEscape hlow⟩

theorem printable_quoteChars (s : String) : ∀ c ∈ quoteChars s, Printable c := by
  intro c hc
  simp only [quoteChars, List.cons_append, List.mem_cons, List.mem_append, List.mem_flatMap,
    List.not_mem_nil, or_false] at hc
  rcases hc with rfl | ⟨d, -, hd⟩ | rfl
  · decide
  · exact printable_escapeChar d c hd
  · decide

theorem printable_joinParts (ps : List (List Char)) (h : ∀ p ∈ ps, ∀ c ∈ p, Printable c) :
    ∀ c ∈ joinParts ps, Printable c := by
  induction ps with
  | nil => simp [joinParts]
  | cons p ps ih =>
    obtain ⟨hp, hps⟩ := List.forall_mem_cons.1 h
    cases ps with
    | nil => exact hp
    | cons q ps =>
      rw [joinParts_cons_cons]
      refine List.forall_mem_append.2 ⟨hp, ?_⟩
      exact List.forall_mem_cons.2 ⟨by decide, List.forall_mem_cons.2 ⟨by decide, ih hps⟩⟩

theorem itemChars_eq_map (items : List Json) : itemChars items = items.map chars := by
  induction items with
  | nil => rfl
  | cons j js ih => rw [itemChars, ih, List.map_cons]

theorem memberChars_eq_map (members : List (String × Json)) :
    memberChars members = members.map fun m => quoteChars m.1 ++ ':' :: ' ' :: m.2.chars := by
  induction members with
  | nil => rfl
  | cons m ms ih => rw [memberChars, ih, List.map_cons]

theorem Numberless.printable {j : Json} (h : j.Numberless) : ∀ c ∈ j.chars, Printable c := by
  induction h with
  | null => exact printable_of_all (by decide)
  | bool b => cases b <;> exact printable_of_all (by decide)
  | text s => exact printable_quoteChars s
  | array _ ih =>
    rw [chars, itemChars_eq_map]
    refine List.forall_mem_append.2 ⟨List.forall_mem_cons.2 ⟨by decide, ?_⟩,
      List.forall_mem_singleton.2 (by decide)⟩
    apply printable_joinParts
    rw [List.forall_mem_map]
    exact ih
  | object _ ih =>
    rw [chars, memberChars_eq_map]
    refine List.forall_mem_append.2 ⟨List.forall_mem_cons.2 ⟨by decide, ?_⟩,
      List.forall_mem_singleton.2 (by decide)⟩
    apply printable_joinParts
    rw [List.forall_mem_map]
    intro m hm
    refine List.forall_mem_append.2 ⟨printable_quoteChars m.1, ?_⟩
    exact List.forall_mem_cons.2 ⟨by decide, List.forall_mem_cons.2 ⟨by decide, ih m hm⟩⟩

theorem numberless_object_cons {k : String} {j : Json} {members : List (String × Json)}
    (hj : j.Numberless) (h : (Json.object members).Numberless) :
    (Json.object ((k, j) :: members)).Numberless := by
  cases h with
  | object h => exact .object (List.forall_mem_cons.2 ⟨hj, h⟩)

theorem numberless_object_nil : (Json.object []).Numberless := .object (by simp)

end Json

open Json in
theorem DataType.numberless_fieldsToJson {fs : List Field}
    (h : ∀ f ∈ fs, f.2.toJson.Numberless) : (Json.array (fieldsToJson fs)).Numberless := by
  rw [fieldsToJson_eq_map]
  refine .array (List.forall_mem_map.2 fun f hf => ?_)
  exact numberless_object_cons (.text f.1) <| numberless_object_cons (h f hf) <|
    numberless_object_cons (.bool true) <|
      numberless_object_cons numberless_object_nil numberless_object_nil

open Json in
theorem DataType.numberless_toJson (t : DataType) : t.toJson.Numberless := by
  induction t using DataType.inductionOn with
  | atom a => exact .text a.name
  | array e n ih =>
    exact numberless_object_cons (.text "array") <| numberless_object_cons ih <|
      numberless_object_cons (.bool n) numberless_object_nil
  | struct fs ih =>
    exact numberless_object_cons (.text "struct") <|
      numberless_object_cons (numberless_fieldsToJson ih) numberless_object_nil

open Json in
theorem Schema.numberless_toJson (s : Schema) : s.toJson.Numberless :=
  numberless_object_cons (.text "struct") <|
    numberless_object_cons (DataType.numberless_fieldsToJson fun f _ => f.2.numberless_toJson)
      numberless_object_nil

namespace Service

/-- The text is in ASCII, and who reads it as JSON, as a tree or as a document, has the notation of
the schema. -/
structure Conveys (text : String) (s : Schema) : Prop where
  tree : Json.parse text = .ok s.toJson
  document : Decoder.json (.text text) = .ok s.toJson.toValue
  ascii : ∀ c ∈ text.toList, c.toNat < 0x80

theorem conveys_answer (s : Schema) : Conveys (answer s) s := by
  have htree : Json.parse (answer s) = .ok s.toJson := s.numberless_toJson.parse_write
  refine ⟨htree, ?_, fun c hc => ?_⟩
  · have hsource : (Value.text (answer s)).jsonSource = .ok (answer s) := rfl
    exact bind_eq_ok_iff.2 ⟨answer s, hsource, bind_eq_ok_iff.2 ⟨s.toJson, htree, rfl⟩⟩
  · rw [answer, Json.write, String.toList_ofList] at hc
    have hc := s.numberless_toJson.printable c hc
    exact hc.2.trans_lt (by decide)

/-- The text that an inference tool returns is in ASCII and reads back as the notation of the schema
that was inferred, whatever the names of its fields are. -/
theorem inference_answers_convey_schema (w : World) (st : State) :
    (∀ s : Schema, Conveys (answer s) s) ∧
    (∀ documents ratio text, (perform w st (.inferDocuments documents ratio)).2 = .ok text →
      ∃ settings s, settingsFor st.settings.inference ratio = .ok settings ∧
        Inference.infer (Table.plan settings) documents = .ok s ∧ Conveys text s) ∧
    ∀ table ratio filter clock text,
      (perform w st (.inferTable table ratio filter clock)).2 = .ok text →
      ∃ settings s, settingsFor st.settings.inference ratio = .ok settings ∧
        (Table.analyze settings table ⟨filter, .null, .null⟩ (w.pages table)).schema = .ok s ∧
        Conveys text s := by
  refine ⟨conveys_answer, ?_, ?_⟩
  · intro documents ratio text h
    obtain ⟨settings, hsettings, h⟩ := bind_eq_ok_iff.1 h
    obtain ⟨_, -, h⟩ := bind_eq_ok_iff.1 h
    obtain ⟨s, hs, h⟩ := bind_eq_ok_iff.1 h
    obtain rfl := Except.ok.inj h
    exact ⟨settings, s, hsettings, hs, conveys_answer s⟩
  · intro table ratio filter clock text h
    simp only [perform, inferTable] at h
    split at h
    · cases h
    · next settings hsettings =>
      split at h
      · cases h
      · obtain ⟨s, hs, rfl⟩ := map_eq_ok_iff.1 h
        exact ⟨settings, s, hsettings, hs, conveys_answer s⟩

theorem inference_answers_convey_schema_escaped :
    let outer := "\x22\\/\n\x01\x7f"
    let inner := "é\uffff😀"
    let documents := Value.list
      [.record [(outer, .record [(inner, .list [.null, .ofInt 1])]), ("", .bool true)]]
    ∃ text s, (perform ⟨fun _ => false, []⟩ (.start .default)
        (.inferDocuments documents .null)).2 = .ok text ∧
      Inference.infer (Table.plan .default) documents = .ok s ∧
      s.fields = [(outer, .struct [(inner, .array .integer true)]), ("", .boolean)] ∧
      Json.parse text = .ok s.toJson ∧ ∀ c ∈ text.toList, c.toNat < 0x80 := by
  intro outer inner documents
  have hok : (perform ⟨fun _ => false, []⟩ (.start .default)
      (.inferDocuments documents .null)).2.isOk = true := by decide +kernel
  have hfields : (Inference.infer (Table.plan .default) documents).map Schema.fields =
      .ok [(outer, .struct [(inner, .array .integer true)]), ("", .boolean)] := by decide +kernel
  obtain ⟨text, htext⟩ := exists_of_isOk hok
  obtain ⟨-, hdocuments, -⟩ :=
    inference_answers_convey_schema ⟨fun _ => false, []⟩ (.start .default)
  obtain ⟨settings, s, hsettings, hs, hconveys⟩ := hdocuments documents .null text htext
  obtain rfl := Except.ok.inj hsettings
  obtain ⟨s', hs', hnames⟩ := map_eq_ok_iff.1 hfields
  obtain rfl := Except.ok.inj (hs.symm.trans hs')
  exact ⟨text, s, htext, hs, hnames, hconveys.tree, hconveys.ascii⟩

end Service

end TabularSchema
