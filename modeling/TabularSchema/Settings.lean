import TabularSchema.Failure
import TabularSchema.Sampling
import TabularSchema.Settings.Reading
import TabularSchema.Value.Equality

/-!
# Settings

The settings of a server: how collections are examined, and which account tables are read with.
They are validated when they are made, all of a group at once, and the issues are reported in the
order of the fields. `entries` lists settings as they can be validated again.
-/

namespace TabularSchema

abbrev Given := List (Value × Value)

namespace Given

def get? (given : Given) (name : String) : Option Value :=
  (given.find? (fun e => e.1.same (.text name))).map Prod.snd

def named (given : Given) : Bool :=
  given.all fun e => match e.1 with
    | .text _ => true
    | _ => false

end Given

/-- The outcome of validating settings: all that is refused, or the validated settings. -/
abbrev Check (α : Type) := Except (List Issue) α

namespace Check

/-- Validates two parts and keeps the issues of both. -/
def both {α β : Type} (a : Check α) (b : Check β) : Check (α × β) :=
  match a, b with
  | .ok a, .ok b => .ok (a, b)
  | .error e, .ok _ => .error e
  | .ok _, .error f => .error f
  | .error e, .error f => .error (e ++ f)

/-- Validates the setting of a name; one that is not given has a default. -/
def field {α : Type} (given : Given) (name : String) (default : α) (read : Value → Except Rule α) :
    Check α :=
  match given.get? name with
  | none => .ok default
  | some v =>
    match read v with
    | .ok a => .ok a
    | .error rule => .error [⟨[name], rule⟩]

/-- The issues of a group of settings, located inside the group. -/
def inside {α : Type} (name : String) (c : Check α) : Check α :=
  match c with
  | .ok a => .ok a
  | .error issues => .error (issues.map fun i => ⟨name :: i.location, i.rule⟩)

def group {α : Type} (name kind : String) (v : Value) (validate : Given → Check α) : Check α :=
  match v.entries? with
  | some entries => inside name (validate entries)
  | none => .error [⟨[name], .group kind⟩]

end Check

structure InferenceSettings where
  ratio : Binary64
  seed : Int
  maxRecords : Int
  pageSize : Int
deriving DecidableEq, Repr

namespace InferenceSettings

def default : InferenceSettings := ⟨Binary64.ofInt 1, Sampling.defaultSeed, 10000, 100⟩

def names : List String := ["sampling_ratio", "seed", "max_records", "page_size"]

/-- The settings by name. -/
def entries (s : InferenceSettings) : List (String × Value) :=
  [("sampling_ratio", .float .double s.ratio), ("seed", .ofInt s.seed),
    ("max_records", .ofInt s.maxRecords), ("page_size", .ofInt s.pageSize)]

def toValue (s : InferenceSettings) : Value := .record s.entries

def validate [BoundCheck] (given : Given) : Check InferenceSettings :=
  let checked :=
    (Check.field given "sampling_ratio" default.ratio Settings.ratio).both <|
      (Check.field given "seed" default.seed Settings.integer).both <|
        (Check.field given "max_records" default.maxRecords Settings.positive).both <|
          Check.field given "page_size" default.pageSize Settings.positive
  checked.map fun (ratio, seed, maxRecords, pageSize) => ⟨ratio, seed, maxRecords, pageSize⟩

/-- The settings with another sampling ratio, validated again as a whole. -/
def withRatio [BoundCheck] (s : InferenceSettings) (ratio : Value) : Check InferenceSettings :=
  validate <| Value.putEntry (.text "sampling_ratio") ratio <|
    s.entries.map fun e => (.text e.1, e.2)

end InferenceSettings

structure Account where
  profile : String
  region : Option String
deriving DecidableEq, Repr

namespace Account

def default : Account := ⟨"default", none⟩

def names : List String := ["profile_name", "region_name"]

def regionValue (region : Option String) : Value :=
  match region with
  | some r => .text r
  | none => .null

def entries (a : Account) : List (String × Value) :=
  [("profile_name", .text a.profile), ("region_name", regionValue a.region)]

def toValue (a : Account) : Value := .record a.entries

def validate (given : Given) : Check Account :=
  let checked :=
    (Check.field given "profile_name" default.profile Settings.text).both <|
      Check.field given "region_name" default.region Settings.optionalText
  checked.map fun (profile, region) => ⟨profile, region⟩

end Account

structure ServerSettings where
  account : Account
  inference : InferenceSettings
deriving DecidableEq, Repr

namespace ServerSettings

def default : ServerSettings := ⟨.default, .default⟩

def entries (s : ServerSettings) : List (String × Value) :=
  [("aws_context", s.account.toValue), ("inference", s.inference.toValue)]

def toValue (s : ServerSettings) : Value := .record s.entries

/-- Validates both groups of settings; the account has to be given. -/
def validate [BoundCheck] (given : Given) : Check ServerSettings :=
  let account : Check Account :=
    match given.get? "aws_context" with
    | none => .error [⟨["aws_context"], .required⟩]
    | some v => Check.group "aws_context" "AWSContext" v Account.validate
  let inference : Check InferenceSettings :=
    match given.get? "inference" with
    | none => .ok .default
    | some v => Check.group "inference" "InferenceConfig" v InferenceSettings.validate
  (account.both inference).map fun (a, i) => ⟨a, i⟩

end ServerSettings

namespace Settings

def accept {α : Type} (c : Check α) : Except Failure α :=
  match c with
  | .ok a => .ok a
  | .error issues => .error (.rejected issues)

/-- Makes settings from given ones, which all have to be named by texts. -/
def make {α : Type} (validate : Given → Check α) (given : Given) : Except Failure α :=
  if given.named then accept (validate given) else .error .unnamedSetting

end Settings

end TabularSchema
