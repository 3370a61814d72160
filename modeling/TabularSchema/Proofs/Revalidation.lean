import TabularSchema.Proofs.RatioSafety

/-!
# Settings validated again

Settings that were validated pass validation again, with the same result: every value that a
validation can put out is read as itself, integers of any size and ratios included. So another
ratio, which is validated together with the other settings, is accepted or refused for its own sake.
The result has that ratio and is otherwise as before, and a refusal is the one issue of the ratio.
-/

namespace TabularSchema

namespace Check

variable {α : Type}

theorem field_of_get?_eq_some {given : Given} {name : String} {v : Value}
    (h : given.get? name = some v) (default : α) (read : Value → Except Rule α) :
    field given name default read = (read v).mapError fun rule => [⟨[name], rule⟩] := by
  unfold field
  rw [h]
  dsimp only
  cases read v with
  | ok a => rfl
  | error rule => rfl

theorem field_of_get?_eq_none {given : Given} {name : String} (h : given.get? name = none)
    (default : α) (read : Value → Except Rule α) : field given name default read = .ok default := by
  unfold field
  rw [h]

end Check

namespace Settings

theorem ratio_double {x : Binary64} (h : Sampling.inUnitInterval x.toDecimal = true) :
    ratio (.float .double x) = .ok x := by
  rw [Sampling.inUnitInterval, Bool.and_eq_true] at h
  have hdouble : double (.float .double x) = .ok x := rfl
  rw [ratio, hdouble]
  have habove : BoundCheck.above 1 x = false := congrArg not h.2
  have hbelow : BoundCheck.below 0 x = false := congrArg not h.1
  change (if _ then _ else _) = _
  rw [habove, hbelow]
  rfl

theorem pos_of_positive {v : Value} {n : Int} (h : positive v = .ok n) : 0 < n := by
  obtain ⟨m, -, h⟩ := bind_eq_ok_iff.1 h
  by_cases hm : 0 < m
  · rw [if_pos hm] at h
    obtain rfl := Except.ok.inj h
    exact hm
  · rw [if_neg hm] at h
    cases h

end Settings

namespace InferenceSettings

structure Valid (s : InferenceSettings) : Prop where
  usable : s.Usable
  maxRecords_pos : 0 < s.maxRecords
  pageSize_pos : 0 < s.pageSize

theorem Valid.of_validate {given : Given} {s : InferenceSettings} (h : validate given = .ok s) :
    s.Valid := by
  have hpos {name : String} {default n : Int} (hdefault : 0 < default)
      (hn : Check.field given name default Settings.positive = .ok n) : 0 < n := by
    rcases Check.field_eq_ok_iff.1 hn with ⟨-, rfl⟩ | ⟨v, -, hv⟩
    · exact hdefault
    · exact Settings.pos_of_positive hv
  obtain ⟨-, -, hmax, hpage⟩ := validate_eq_ok_iff.1 h
  exact ⟨Usable.of_validate .standard h, hpos (by decide) hmax, hpos (by decide) hpage⟩

theorem Made.valid {s : InferenceSettings} (h : s.Made) : s.Valid := by
  obtain ⟨given, hgiven⟩ := h.exists_given
  exact Valid.of_validate hgiven

def asGiven (s : InferenceSettings) : Given := s.entries.map fun e => (.text e.1, e.2)

theorem named_asGiven (s : InferenceSettings) : s.asGiven.named = true := rfl

theorem validate_of_fields {given : Given} {ratio : Check Binary64} {seed maxRecords pageSize : Int}
    (hratio : Check.field given "sampling_ratio" default.ratio Settings.ratio = ratio)
    (hseed : Check.field given "seed" default.seed Settings.integer = .ok seed)
    (hmax : Check.field given "max_records" default.maxRecords Settings.positive = .ok maxRecords)
    (hpage : Check.field given "page_size" default.pageSize Settings.positive = .ok pageSize) :
    validate given = ratio.map fun x => ⟨x, seed, maxRecords, pageSize⟩ := by
  rw [validate, hratio, hseed, hmax, hpage]
  cases ratio <;> rfl

def checkedRatio (ratio : Value) : Check Binary64 :=
  (Settings.ratio ratio).mapError fun rule => [⟨["sampling_ratio"], rule⟩]

theorem validate_ratio_alone (ratio : Value) :
    validate [(.text "sampling_ratio", ratio)] =
      (checkedRatio ratio).map fun x => { default with ratio := x } := by
  have hget (name : String) : Given.get? [(.text "sampling_ratio", ratio)] name =
      if "sampling_ratio" = name then some ratio else none :=
    Given.get?_putEntry [] "sampling_ratio" ratio name
  apply validate_of_fields
  · exact Check.field_of_get?_eq_some (hget _) _ _
  · exact Check.field_of_get?_eq_none (hget _) _ _
  · exact Check.field_of_get?_eq_none (hget _) _ _
  · exact Check.field_of_get?_eq_none (hget _) _ _

theorem field_putRatio {α : Type} {s : InferenceSettings} {name : String} {v : Value}
    (hv : (name, v) ∈ s.entries) (hne : "sampling_ratio" ≠ name) (ratio : Value) (default : α)
    (read : Value → Except Rule α) :
    Check.field (Value.putEntry (.text "sampling_ratio") ratio s.asGiven) name default read =
      (read v).mapError fun rule => [⟨[name], rule⟩] :=
  Check.field_of_get?_eq_some (get?_putRatio hv hne ratio) default read

theorem Valid.withRatio_eq {s : InferenceSettings} (h : s.Valid) (ratio : Value) :
    s.withRatio ratio = (checkedRatio ratio).map fun x => { s with ratio := x } := by
  have hseed : ("seed", .ofInt s.seed) ∈ s.entries := by simp [entries]
  have hmax : ("max_records", .ofInt s.maxRecords) ∈ s.entries := by simp [entries]
  have hpage : ("page_size", .ofInt s.pageSize) ∈ s.entries := by simp [entries]
  apply validate_of_fields
  · have hget := Given.get?_putEntry s.asGiven "sampling_ratio" ratio "sampling_ratio"
    rw [if_pos rfl] at hget
    exact Check.field_of_get?_eq_some hget _ _
  · exact field_putRatio hseed (by decide) ratio _ _
  · refine (field_putRatio hmax (by decide) ratio _ _).trans ?_
    rw [Settings.positive_ofInt, if_pos h.maxRecords_pos]
    rfl
  · refine (field_putRatio hpage (by decide) ratio _ _).trans ?_
    rw [Settings.positive_ofInt, if_pos h.pageSize_pos]
    rfl

theorem Valid.validate_asGiven {s : InferenceSettings} (h : s.Valid) :
    validate s.asGiven = .ok s := by
  -- Giving the settings again is giving them with the ratio that they have.
  have hown : Value.putEntry (.text "sampling_ratio") (.float .double s.ratio) s.asGiven =
      s.asGiven := by simp [asGiven, entries, Value.putEntry, Value.same]
  have hvalidate : s.withRatio (.float .double s.ratio) = validate s.asGiven := congrArg _ hown
  rw [← hvalidate, h.withRatio_eq, checkedRatio, Settings.ratio_double h.usable]
  rfl

/-- The ratio of a call changes the ratio of settings and nothing else: it is what the ratio would
be in settings where nothing else is given, or it is refused as it would be there. Settings in force
for a call, like those before, are validated as themselves. -/
theorem override_changes_only_ratio (s : InferenceSettings) (hs : s.Made) (ratio : Value)
    (hratio : ratio ≠ .null) :
    let alone := Settings.make validate [(.text "sampling_ratio", ratio)]
    ((∃ c, alone = .ok c ∧
        Service.settingsFor s ratio = .ok ⟨c.ratio, s.seed, s.maxRecords, s.pageSize⟩) ∨
      ∃ rule, alone = .error (.rejected [⟨["sampling_ratio"], rule⟩]) ∧
        Service.settingsFor s ratio = .error (.rejected [⟨["sampling_ratio"], rule⟩])) ∧
    ∀ s', s' = s ∨ Service.settingsFor s ratio = .ok s' →
      Settings.make validate s'.asGiven = .ok s' := by
  intro alone
  have halone : alone = Settings.accept (validate [(.text "sampling_ratio", ratio)]) := rfl
  have hcall : Service.settingsFor s ratio = Settings.accept (s.withRatio ratio) := by
    unfold Service.settingsFor
    split
    · exact absurd rfl hratio
    · rfl
  refine ⟨?_, fun s' hs' => ?_⟩
  · rw [halone, hcall, validate_ratio_alone, hs.valid.withRatio_eq, checkedRatio]
    cases Settings.ratio ratio with
    | ok x => exact Or.inl ⟨_, rfl, rfl⟩
    | error rule => exact Or.inr ⟨rule, rfl, rfl⟩
  · have hmade : s'.Made := by
      rcases hs' with rfl | hs'
      · exact hs
      · exact .override hs hs'
    rw [Settings.make, if_pos s'.named_asGiven, hmade.valid.validate_asGiven]
    rfl

/-- A seed beyond all machine integers stays as it is where a text gives a ratio, and a ratio that
is no number is refused. -/
theorem override_changes_only_ratio_quarter :
    let env : Environment :=
      [("MCP_SCHEMA_SEED", "-123456789012345678901234567890"), ("MCP_SCHEMA_MAX_RECORDS", " 5.0 ")]
    let quarter := Binary64.ofRatio false 1 4
    ∃ s, ofEnvironment env = .ok s ∧
      Service.settingsFor s (.text " 2.5e-1 ") =
        .ok ⟨quarter, -123456789012345678901234567890, 5, 100⟩ ∧
      Service.settingsFor s (.float .double .nan) =
        .error (.rejected [⟨["sampling_ratio"], .atMostOne⟩]) ∧
      Settings.make validate s.asGiven = .ok s := by
  intro env quarter
  have hs : ofEnvironment env =
      .ok ⟨default.ratio, -123456789012345678901234567890, 5, 100⟩ := by decide +kernel
  have hread : Settings.make validate [(.text "sampling_ratio", .text " 2.5e-1 ")] =
      .ok { default with ratio := quarter } := by decide +kernel
  have hrefused : Settings.make validate [(.text "sampling_ratio", .float .double .nan)] =
      .error (.rejected [⟨["sampling_ratio"], .atMostOne⟩]) := by decide +kernel
  obtain ⟨htext, hagain⟩ :=
    override_changes_only_ratio _ (.environment hs) (.text " 2.5e-1 ") (by simp)
  obtain ⟨hnan, -⟩ :=
    override_changes_only_ratio _ (.environment hs) (.float .double .nan) (by simp)
  refine ⟨_, hs, ?_, ?_, hagain _ (Or.inl rfl)⟩
  · rcases htext with ⟨c, hc, hcall⟩ | ⟨rule, hrule, -⟩
    · rw [hread] at hc
      obtain rfl := Except.ok.inj hc
      exact hcall
    · rw [hread] at hrule
      cases hrule
  · rcases hnan with ⟨c, hc, -⟩ | ⟨rule, hrule, hcall⟩
    · rw [hrefused] at hc
      cases hc
    · rw [hrefused] at hrule
      rw [hcall, ← Except.error.inj hrule]

end InferenceSettings

end TabularSchema
