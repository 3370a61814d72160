import TabularSchema.Settings

/-!
# Settings from the environment

A setting may be given by an environment variable named after it. Blanks around the value do not
count, and a variable without a value gives nothing.
-/

namespace TabularSchema

/-- Environment variables, of which the last of each name counts. -/
abbrev Environment := List (String × String)

namespace Environment

def get? (env : Environment) (name : String) : Option String :=
  (env.reverse.find? (fun p => p.1 == name)).map Prod.snd

def variableFor (name : String) : String := "MCP_SCHEMA_" ++ name.toUpper

/-- The trimmed value of a variable, unless it is empty. -/
def value? (env : Environment) (name : String) : Option String :=
  match Text.trimBoth Text.isBlank ((env.get? (variableFor name)).getD "").toList with
  | [] => none
  | cs => some (String.ofList cs)

def given (env : Environment) (names : List String) : Given :=
  names.filterMap fun name => (env.value? name).map fun v => (.text name, .text v)

end Environment

namespace InferenceSettings

def ofEnvironment [BoundCheck] (env : Environment) : Except Failure InferenceSettings :=
  Settings.make validate (env.given names)

end InferenceSettings

namespace Account

def ofEnvironment (env : Environment) : Except Failure Account :=
  Settings.make validate (env.given names)

end Account

namespace ServerSettings

def ofEnvironment [BoundCheck] (env : Environment) : Except Failure ServerSettings := do
  let account ← Account.ofEnvironment env
  let inference ← InferenceSettings.ofEnvironment env
  return ⟨account, inference⟩

end ServerSettings

end TabularSchema
