/-!
# The catalog of tools

The name of the server and its tools as clients see them, in the order of their names.
-/

namespace TabularSchema

namespace Service

structure Tool where
  name : String
  description : String
  parameters : List String
  required : List String
deriving DecidableEq, Repr

def serverName : String := "Document Schema"

/-- The lines of a description, each on a line of its own and indented. -/
def describe (lines : List String) : String :=
  "\n    " ++ "\n    ".intercalate lines ++ "\n    "

def changeProfileTool : Tool where
  name := "doc_schema_change_profile"
  description := describe
    ["Change the AWS profile.", "This will change the profile for the current session."]
  parameters := ["profile_name"]
  required := ["profile_name"]

def getProfileTool : Tool where
  name := "doc_schema_get_profile"
  description := describe ["Returns then name of the current AWS profile."]
  parameters := []
  required := []

def inferDocumentsTool : Tool where
  name := "doc_schema_infer_documents"
  description := describe
    ["Infer the tabular schema of a list of JSON documents.",
      "Fields whose values have conflicting shapes across documents are typed", "as string.",
      "Returns the schema as Spark StructType JSON."]
  parameters := ["documents", "sampling_ratio"]
  required := ["documents"]

def inferTableTool : Tool where
  name := "doc_schema_infer_dynamodb"
  description := describe
    ["Infer the tabular schema of a DynamoDB table from a sample of its items.",
      "The sampling ratio is a number between 0 and 1, above 0.99 every scanned",
      "item is used. Without it the server default applies.",
      "Returns the schema as Spark StructType JSON."]
  parameters := ["filter_expression", "sampling_ratio", "table_name"]
  required := ["table_name"]

def tools : List Tool :=
  [changeProfileTool, getProfileTool, inferDocumentsTool, inferTableTool]

end Service

end TabularSchema
