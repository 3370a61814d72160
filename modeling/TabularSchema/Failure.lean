import TabularSchema.DataType
import TabularSchema.Number.Decimal.Context
import TabularSchema.Settings.Issue

/-!
# Failures

Everything that can go wrong, as causes. `Failure.message` gives the wording of each.
-/

namespace TabularSchema

inductive TextFault where
  /-- The value answers with something of another kind when it is asked for its text. -/
  | notText (kind : String)
  /-- An integer in the text has more digits than are written. -/
  | tooManyDigits
deriving DecidableEq, Repr

namespace TextFault

def message : TextFault → String
  | .notText kind => "__str__ returned non-string (type " ++ kind ++ ")"
  | .tooManyDigits =>
    "Exceeds the limit (4300 digits) for integer string conversion; " ++
      "use sys.set_int_max_str_digits() to increase the limit"

end TextFault

inductive Failure where
  /-- A document is not a mapping of fields. -/
  | notMapping (kind : String)
  /-- A value has no elements to go through. -/
  | notIterable (kind : String)
  /-- A value has no number of elements. -/
  | noLength (kind : String)
  /-- A value lacks an attribute that was asked for. -/
  | noAttribute (kind name : String)
  /-- A value cannot be a key or an element of a set. -/
  | unhashable (kind : String)
  /-- A signaling NaN cannot be a key or an element of a set. -/
  | unhashableNaN
  /-- A value has no text, and so cannot name a field. -/
  | textless (fault : TextFault)
  /-- Two values have no order between them. -/
  | incomparable (relation left right : String)
  /-- A date and a timestamp have no order between them. -/
  | dateAgainstTimestamp
  /-- A timestamp with an offset and one without have no order between them. -/
  | mixedOffsets
  /-- A decimal operation trapped its signals. -/
  | trapped (signals : List Signal)
  /-- A sampling ratio lies outside the unit interval. -/
  | ratioOutOfRange (text : String)
  /-- Two fields share a name. -/
  | duplicateField (name : String)
  /-- A schema has no field of a name, given as a literal. -/
  | noField (literal : String)
  /-- A wire attribute is empty. -/
  | emptyAttribute
  /-- A wire attribute has an unknown type name. -/
  | unknownAttribute (name : String)
  /-- A binary attribute does not hold bytes. -/
  | notBytes
  /-- A number attribute holds something that denotes no number. -/
  | notNumeric (kind : String)
  /-- A number attribute holds a list that is no sign, digits and exponent. -/
  | badTriple (reason : String)
  /-- A part of a number is an integer beyond the machine integers it has to be one of. -/
  | tooWide (machineKind : String)
  /-- A JSON document does not follow the grammar. -/
  | malformedJson
  /-- A JSON document is neither text nor bytes. -/
  | jsonSource (kind : String)
  /-- An integer literal is too long to be read. -/
  | tooManyDigits (count : Nat)
  /-- Bytes do not decode as text. -/
  | undecodable (codec span reason : String)
  /-- A record limit is no natural number of machine size; the subject says what is faulted. -/
  | badLimit (subject : String)
  /-- The table service refused a request. -/
  | service (code text : String)
  /-- An account has a profile that is not known. -/
  | unknownProfile (name : String)
  /-- A named setting has a name that is no text. -/
  | unnamedSetting
  /-- Settings break rules. -/
  | rejected (issues : List Issue)
  /-- Two values cannot be combined by an operation. -/
  | unsupported (operation left right : String)
  /-- A value cannot be converted to an integer. -/
  | notIntegral (kind : String)
  /-- A NaN, given as it is called, has no integer part. -/
  | integerOfNaN (name : String)
  /-- An infinite number has no integer part. -/
  | integerOfInfinity
  /-- A keyword names a parameter that is bound already. -/
  | boundTwice (function parameter : String)
deriving DecidableEq, Repr

namespace Failure

/-- The failure of an ordering comparison that involves a decimal NaN. -/
def nanComparison : Failure := .trapped [.invalidOperation]

def message : Failure → String
  | .notMapping kind => "Expected a mapping of fields, got " ++ kind
  | .notIterable kind => "'" ++ kind ++ "' object is not iterable"
  | .noLength kind => "object of type '" ++ kind ++ "' has no len()"
  | .noAttribute kind name => "'" ++ kind ++ "' object has no attribute '" ++ name ++ "'"
  | .unhashable kind => "unhashable type: '" ++ kind ++ "'"
  | .unhashableNaN => "Cannot hash a signaling NaN value"
  | .textless fault => fault.message
  | .incomparable relation left right =>
    "'" ++ relation ++ "' not supported between instances of '" ++ left ++ "' and '" ++ right ++ "'"
  | .dateAgainstTimestamp => "can't compare datetime.datetime to datetime.date"
  | .mixedOffsets => "can't compare offset-naive and offset-aware datetimes"
  | .trapped signals => Signal.listText signals
  | .ratioOutOfRange text => "Sampling ratio must be between 0 and 1: " ++ text
  | .duplicateField name => (DuplicateField.mk name).message
  | .noField literal => literal
  | .emptyAttribute =>
    "Value must be a nonempty dictionary whose key is a valid dynamodb type."
  | .unknownAttribute name => "Dynamodb type " ++ name ++ " is not supported"
  | .notBytes =>
    "Value must be of the following types: <class 'bytearray'>, <class 'bytes'>"
  | .notNumeric kind => "conversion from " ++ kind ++ " to Decimal is not supported"
  | .badTriple reason => reason
  | .tooWide machineKind => "Python int too large to convert to C " ++ machineKind
  | .malformedJson => "malformed JSON document"
  | .jsonSource kind => "the JSON object must be str, bytes or bytearray, not " ++ kind
  | .tooManyDigits count =>
    "Exceeds the limit (4300 digits) for integer string conversion: value has " ++ toString count ++
      " digits; use sys.set_int_max_str_digits() to increase the limit"
  | .undecodable codec span reason =>
    "'" ++ codec ++ "' codec can't decode " ++ span ++ ": " ++ reason
  | .badLimit subject =>
    subject ++ " for islice() must be None or an integer: 0 <= x <= sys.maxsize."
  | .service code text =>
    "An error occurred (" ++ code ++ ") when calling the Scan operation: " ++ text
  | .unknownProfile name => "The config profile (" ++ name ++ ") could not be found"
  | .unnamedSetting => "keywords must be strings"
  | .rejected issues => "; ".intercalate (issues.map (·.rule.message))
  | .unsupported operation left right =>
    "unsupported operand type(s) for " ++ operation ++ ": '" ++ left ++ "' and '" ++ right ++ "'"
  | .notIntegral kind =>
    "int() argument must be a string, a bytes-like object or a real number, not '" ++ kind ++ "'"
  | .integerOfNaN name => "cannot convert " ++ name ++ " to integer"
  | .integerOfInfinity => "cannot convert Infinity to integer"
  | .boundTwice function parameter =>
    function ++ "() got multiple values for argument '" ++ parameter ++ "'"

end Failure

end TabularSchema
