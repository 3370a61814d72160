import TabularSchema.Json.Writer
import TabularSchema.Session
import TabularSchema.Table.Analysis

/-!
# The service

The tools a server offers, on one state: its settings, its sessions, and what it has asked of the
table service. Only the profile of the account can be changed. The inference tools answer with the
schema as JSON text.
-/

namespace TabularSchema

namespace Service

/-- What the service can see of the outside: which profiles are known, and the tables. -/
structure World where
  knowsProfile : String → Bool
  tables : List (String × List Page)

/-- The pages of a table; of tables with one name the last counts. -/
def World.pages (w : World) (table : String) : Pages :=
  (w.tables.reverse.find? (fun t => t.1 == table)).map Prod.snd

/-- The settings in force, the sessions, the calls made so far, each through a session, and the
number of pages requested. -/
structure State where
  settings : ServerSettings
  sessions : SessionPool
  calls : List (SessionId × ServiceCall)
  pagesRead : Nat

def State.start (settings : ServerSettings) : State := ⟨settings, .empty, [], 0⟩

/-- A request to one of the tools. A ratio that is null stands for the one in the settings. -/
inductive Call where
  | getProfile
  | changeProfile (name : String)
  | inferDocuments (documents ratio : Value)
  | inferTable (table : String) (ratio filter clock : Value)

def settingsFor [BoundCheck] (s : InferenceSettings) (ratio : Value) :
    Except Failure InferenceSettings :=
  match ratio with
  | .null => .ok s
  | ratio => Settings.accept (s.withRatio ratio)

def answer (s : Schema) : String := s.toJson.write

/-- Infers the schema of documents, whose number has to be known. -/
def inferDocuments [BoundCheck] (s : InferenceSettings) (documents ratio : Value) :
    Except Failure String := do
  let s ← settingsFor s ratio
  let _ ← documents.length
  let schema ← Inference.infer (Table.plan s) documents
  return answer schema

def inferTable [BoundCheck] (w : World) (st : State) (table : String) (ratio filter clock : Value) :
    State × Except Failure String :=
  match settingsFor st.settings.inference ratio with
  | .error e => (st, .error e)
  | .ok s =>
    match st.sessions.acquire w.knowsProfile st.settings.account clock with
    | .error e => (st, .error e)
    | .ok (session, sessions) =>
      let a := Table.analyze s table ⟨filter, .null, .null⟩ (w.pages table)
      ({ st with
          sessions := sessions
          calls := st.calls ++ a.calls.map fun c => (session, c)
          pagesRead := st.pagesRead + a.pagesRead },
        a.schema.map answer)

def perform [BoundCheck] (w : World) (st : State) : Call → State × Except Failure String
  | .getProfile => (st, .ok st.settings.account.profile)
  | .changeProfile name =>
    let account := { st.settings.account with profile := name }
    ({ st with settings := { st.settings with account := account } }, .ok name)
  | .inferDocuments documents ratio =>
    (st, inferDocuments st.settings.inference documents ratio)
  | .inferTable table ratio filter clock => inferTable w st table ratio filter clock

end Service

end TabularSchema
