import TabularSchema.Proofs.ItemNumbers
import TabularSchema.Proofs.Revalidation
import TabularSchema.Proofs.SchemaStruct

/-!
# Which record limits can be used

Validation accepts every positive record limit, but a scan takes only limits that are machine
integers. With a larger one the analysis of a table fails before anything is read. With any other
accepted limit, a table whose pages and items can all be read has a schema, unless a key inside an
item that is examined has no text; in items as a table service writes them all keys are texts.
-/

namespace TabularSchema

namespace Scan

theorem limitOf_of_large {n : Int} (hn : 2 ^ 63 ≤ n) :
    limitOf (.ofInt n) = .error (.badLimit "Stop argument") := by
  have hinteger : Attribute.integer? (.ofInt n) = some n := rfl
  have hfits : ¬ (0 ≤ n ∧ n ≤ maxLimit) := by
    unfold maxLimit
    omega
  have hindex : ¬ (-maxLimit ≤ n + 1 ∧ n < -1) := by omega
  unfold limitOf
  dsimp only
  rw [hinteger]
  dsimp only
  rw [if_neg hfits, if_neg hindex]

theorem firstItems_take {pages : List Page} {contents : List (List Value)}
    (h : pages.mapM Page.contents = .ok contents) (n : Nat) :
    FirstItems pages n (contents.flatten.take n) :=
  ⟨pages, [], contents, (List.append_nil pages).symm, h, Or.inl rfl, rfl⟩

end Scan

namespace Item

theorem isSome_entries?_of_ofWire {item document : Value} (h : ofWire item = .ok document) :
    document.entries?.isSome = true := by
  obtain ⟨entries, -, h⟩ := bind_eq_ok_iff.1 h
  obtain ⟨attributes, -, h⟩ := bind_eq_ok_iff.1 h
  rw [decode] at h
  obtain ⟨fields, -, rfl⟩ := map_eq_ok_iff.1 h
  rfl

theorem named_of_ofWire {entries : List (String × Wire)} (hentries : (Wire.map entries).WellFormed)
    {document : Value} (h : ofWire (.map .plain (Wire.toEntries entries)) = .ok document) :
    document.Named := by
  rw [ofWire_eq] at h
  obtain ⟨v, hv, hdecode⟩ := bind_eq_ok_iff.1 h
  exact (Wire.predicts_of_wellFormed hentries v document hv hdecode).named

end Item

namespace Inference

theorem infer_list_eq_full {p : Plan} {r : Decimal} (hr : Sampling.acceptRatio p.ratio = .ok r)
    (documents : List Value) :
    infer p (.list documents) =
      infer ⟨Plan.full.ratio, p.seed, p.decoder⟩ (.list (Sampling.sample r p.seed documents)) := by
  rw [infer_list hr]
  exact (infer_list_of_isFullScan (p := ⟨Plan.full.ratio, p.seed, p.decoder⟩) acceptRatio_full
    isFullScan_one _).symm

end Inference

namespace Table

theorem analyze_of_large_limit {s : InferenceSettings} (h : 2 ^ 63 ≤ s.maxRecords) (table : String)
    (f : Filter) (pages : Pages) :
    analyze s table f pages = ⟨.error (.badLimit "Stop argument"), [], 0⟩ := by
  have hlimit : Scan.limitOf (request s table f).limit = .error (.badLimit "Stop argument") :=
    Scan.limitOf_of_large h
  unfold analyze
  dsimp only
  rw [hlimit]
  rfl

/-- With a limit that a scan takes, only a key without a text stands in the way of a schema. -/
theorem analyze_ok_or_textless {s : InferenceSettings} (hs : s.Valid) (hmax : s.maxRecords < 2 ^ 63)
    {pages : List Page} {contents : List (List Value)} {items : List Value}
    (hpages : pages.mapM Page.contents = .ok contents)
    (hitems : contents.flatten.mapM Item.ofWire = .ok items) (table : String) (f : Filter) :
    let examined := Sampling.sample s.ratio.toDecimal s.seed (items.take s.maxRecords.toNat)
    ((∀ d ∈ examined, d.Named) ∧
      ∃ schema, (analyze s table f (some pages)).schema = .ok schema) ∨
    (¬ (∀ d ∈ examined, d.Named) ∧
      ∃ fault, (analyze s table f (some pages)).schema = .error (.textless fault)) := by
  intro examined
  have hanalyze := analyze_schema hs.usable hs.maxRecords_pos hmax
    (Scan.firstItems_take hpages _) (mapM_take_eq_ok hitems _) table f
  have hmappings : ∀ d ∈ examined, d.entries?.isSome = true := by
    intro d hd
    have hmem := List.take_subset _ _ ((Sampling.sample_sublist _ _ _).subset hd)
    obtain ⟨v, -, hv⟩ := exists_of_mapM_eq_ok hitems d hmem
    exact Item.isSome_entries?_of_ofWire hv
  rw [hanalyze, Inference.infer_list_eq_full hs.usable.acceptRatio]
  rcases Inference.infer_mappings (p := ⟨Inference.Plan.full.ratio, s.seed, .plain⟩)
    Inference.acceptRatio_full Inference.isFullScan_one (Decoder.mapM_plain examined) hmappings with
    ⟨hnamed, h⟩ | h
  · exact Or.inl ⟨hnamed, _, h⟩
  · exact Or.inr h

/-- A table whose pages and items can all be read has a schema exactly if the accepted limit is a
machine integer and all keys inside the examined items have texts. A larger limit is refused by the
scan, and a key without a text fails the analysis. In items as they are written on the wire all keys
are texts, so there only the limit counts. -/
theorem analyze_succeeds_iff (s : InferenceSettings) (hs : s.Made) (pages : List Page)
    (contents : List (List Value)) (items : List Value)
    (hpages : pages.mapM Page.contents = .ok contents)
    (hitems : contents.flatten.mapM Item.ofWire = .ok items) (table : String) (f : Filter) :
    let result := (analyze s table f (some pages)).schema
    let examined := Sampling.sample s.ratio.toDecimal s.seed (items.take s.maxRecords.toNat)
    ((∃ schema, result = .ok schema) ↔ s.maxRecords < 2 ^ 63 ∧ ∀ d ∈ examined, d.Named) ∧
    (2 ^ 63 ≤ s.maxRecords → result = .error (.badLimit "Stop argument")) ∧
    (s.maxRecords < 2 ^ 63 → ¬ (∀ d ∈ examined, d.Named) →
      ∃ fault, result = .error (.textless fault)) ∧
    ∀ rows : List (List (String × Wire)), (∀ row ∈ rows, (Wire.map row).WellFormed) →
      contents.flatten = rows.map (fun row => .map .plain (Wire.toEntries row)) →
      ((∃ schema, result = .ok schema) ↔ s.maxRecords < 2 ^ 63) := by
  intro result examined
  have hlarge (h : 2 ^ 63 ≤ s.maxRecords) : result = .error (.badLimit "Stop argument") :=
    congrArg Analysis.schema (analyze_of_large_limit h table f _)
  have hsmall (h : s.maxRecords < 2 ^ 63) :
      ((∀ d ∈ examined, d.Named) ∧ ∃ schema, result = .ok schema) ∨
        (¬ (∀ d ∈ examined, d.Named) ∧ ∃ fault, result = .error (.textless fault)) :=
    analyze_ok_or_textless hs.valid h hpages hitems table f
  have hiff : (∃ schema, result = .ok schema) ↔
      s.maxRecords < 2 ^ 63 ∧ ∀ d ∈ examined, d.Named := by
    constructor
    · rintro ⟨schema, hschema⟩
      by_cases hmax : s.maxRecords < 2 ^ 63
      · rcases hsmall hmax with ⟨hnamed, -⟩ | ⟨-, fault, hfault⟩
        · exact ⟨hmax, hnamed⟩
        · rw [hfault] at hschema
          cases hschema
      · rw [hlarge (by omega)] at hschema
        cases hschema
    · rintro ⟨hmax, hnamed⟩
      rcases hsmall hmax with ⟨-, hschema⟩ | ⟨hnot, -⟩
      · exact hschema
      · exact absurd hnamed hnot
  refine ⟨hiff, hlarge, fun hmax hnot => ?_, fun rows hrows hraw => ?_⟩
  · rcases hsmall hmax with ⟨hnamed, -⟩ | ⟨-, hfault⟩
    · exact absurd hnamed hnot
    · exact hfault
  · have hnamed : ∀ d ∈ examined, d.Named := by
      intro d hd
      have hmem := List.take_subset _ _ ((Sampling.sample_sublist _ _ _).subset hd)
      obtain ⟨v, hv, hread⟩ := exists_of_mapM_eq_ok hitems d hmem
      rw [hraw] at hv
      obtain ⟨row, hrow, rfl⟩ := List.mem_map.1 hv
      exact Item.named_of_ofWire (hrows row hrow) hread
    rw [hiff]
    exact and_iff_left hnamed

/-- The greatest limit that a scan takes, for items on two pages around one without items. -/
theorem analyze_succeeds_iff_greatest :
    let env : Environment :=
      [("MCP_SCHEMA_MAX_RECORDS", "9223372036854775807"), ("MCP_SCHEMA_SAMPLING_RATIO", "0.5")]
    let rows : List (List (String × Wire)) :=
      [[("n", .number "1E+3")], [("xs", .list [.null, .map [("n", .numberSet ["2", "1"])]])]]
    let raw := rows.map fun row => Value.map .plain (Wire.toEntries row)
    let pages := [Page.items (.list (raw.take 1)), .blank, .items (.list (raw.drop 1))]
    ∃ s schema, InferenceSettings.ofEnvironment env = .ok s ∧
      (analyze s "t" .none (some pages)).schema = .ok schema := by
  intro env rows raw pages
  have hs : InferenceSettings.ofEnvironment env =
      .ok ⟨Binary64.ofRatio false 1 2, 1, 9223372036854775807, 100⟩ := by decide +kernel
  have hok : (raw.mapM Item.ofWire).isOk = true := by decide +kernel
  obtain ⟨items, hitems⟩ := exists_of_isOk hok
  have hrows : ∀ row ∈ rows, (Wire.map row).WellFormed := by
    refine List.forall_mem_cons.2 ⟨.map (by decide) ?_, List.forall_mem_singleton.2 ?_⟩
    · exact List.forall_mem_singleton.2 (.leaf trivial)
    · refine .map (by decide) (List.forall_mem_singleton.2 (.list ?_))
      refine List.forall_mem_cons.2 ⟨.leaf trivial, List.forall_mem_singleton.2 ?_⟩
      exact .map (by decide) (List.forall_mem_singleton.2 (.leaf trivial))
  obtain ⟨-, -, -, hwritten⟩ := analyze_succeeds_iff _ (.environment hs) pages
    [raw.take 1, [], raw.drop 1] items rfl hitems "t" .none
  obtain ⟨schema, hschema⟩ := (hwritten rows hrows rfl).2 (by decide)
  exact ⟨_, schema, hs, hschema⟩

/-- The next limit passes validation as well, and fails on a table of one item that can be read. -/
theorem analyze_refuses_accepted_limit :
    let given : Given := [(.text "max_records", .ofInt (2 ^ 63))]
    let page := Page.items (.list [.record [("n", .record [("N", .text "1")])]])
    ∃ s, Settings.make InferenceSettings.validate given = .ok s ∧ s.Usable ∧ 0 < s.maxRecords ∧
      (page.contents >>= fun items => items.mapM Item.ofWire).isOk = true ∧
      (analyze s "t" .none (some [page])).schema = .error (.badLimit "Stop argument") := by
  intro given page
  refine ⟨⟨Binary64.ofInt 1, 1, 2 ^ 63, 100⟩, by decide +kernel, InferenceSettings.Usable.default,
    by decide, by decide +kernel, by decide +kernel⟩

end Table

end TabularSchema
