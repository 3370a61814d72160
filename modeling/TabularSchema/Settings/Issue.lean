/-!
# Refused settings

A setting is refused by a rule, which has a code and a wording, at the place where it was given.
-/

namespace TabularSchema

inductive Rule where
  | required
  /-- The setting is a group of settings of the named kind. -/
  | group (kind : String)
  | isNumber
  | readsAsNumber
  | atMostOne
  | atLeastZero
  | isInteger
  | readsAsInteger
  | readableSize
  | isFinite
  | isWhole
  | isPositive
  | isText
  | readsAsText
deriving DecidableEq, Repr

namespace Rule

def code : Rule → String
  | .required => "missing"
  | .group _ => "model_type"
  | .isNumber => "float_type"
  | .readsAsNumber => "float_parsing"
  | .atMostOne => "less_than_equal"
  | .atLeastZero => "greater_than_equal"
  | .isInteger => "int_type"
  | .readsAsInteger => "int_parsing"
  | .readableSize => "int_parsing_size"
  | .isFinite => "finite_number"
  | .isWhole => "int_from_float"
  | .isPositive => "greater_than"
  | .isText => "string_type"
  | .readsAsText => "string_unicode"

def message : Rule → String
  | .required => "Field required"
  | .group kind => "Input should be a valid dictionary or instance of " ++ kind
  | .isNumber => "Input should be a valid number"
  | .readsAsNumber => "Input should be a valid number, unable to parse string as a number"
  | .atMostOne => "Input should be less than or equal to 1"
  | .atLeastZero => "Input should be greater than or equal to 0"
  | .isInteger => "Input should be a valid integer"
  | .readsAsInteger => "Input should be a valid integer, unable to parse string as an integer"
  | .readableSize => "Unable to parse input string as an integer, exceeded maximum size"
  | .isFinite => "Input should be a finite number"
  | .isWhole => "Input should be a valid integer, got a number with a fractional part"
  | .isPositive => "Input should be greater than 0"
  | .isText => "Input should be a valid string"
  | .readsAsText => "Input should be a valid string, unable to parse raw data as a unicode string"

end Rule

/-- A refused setting: the names that lead to it, and the rule it breaks. -/
structure Issue where
  location : List String
  rule : Rule
deriving DecidableEq, Repr

end TabularSchema
