import TabularSchema.Failure
import TabularSchema.Number.Shortest
import TabularSchema.Text.Quoted
import TabularSchema.Value

/-!
# The text of a value

`Value.inspect` writes a value as a literal that shows its kind. `Value.plainText` writes it
plainly: a text is itself, a decimal its digits and a date its ISO form, while most other values are
shown as literals. Both write all digits of an integer. `Value.written` is the plain text as far as
there is one: a wrapped byte string has none, and neither has a value that shows an integer of more
than 4300 digits. A mapping key names the field of its written text.
-/

namespace TabularSchema

namespace Date

def literal (d : Date) : String :=
  "datetime.date(" ++ toString d.year ++ ", " ++ toString d.month ++ ", " ++ toString d.day ++ ")"

end Date

namespace Timestamp

def offsetLiteral (offset : Int) : String :=
  if offset = 0 then "datetime.timezone.utc"
  else
    let days := offset.fdiv 86400000000
    let seconds := offset.fmod 86400000000 / 1000000
    let micros := offset.fmod 1000000
    let parts :=
      [("days=", days), ("seconds=", seconds), ("microseconds=", micros)].filterMap fun p =>
        if p.2 = 0 then none else some (p.1 ++ toString p.2)
    "datetime.timezone(datetime.timedelta(" ++ ", ".intercalate parts ++ "))"

/-- The literal of a timestamp; seconds and microseconds are left out where they are zero. -/
def literal (t : Timestamp) : String :=
  let base := [t.date.year, t.date.month, t.date.day, t.hour, t.minute]
  let fine :=
    if t.microsecond ≠ 0 then [t.second, t.microsecond]
    else if t.second ≠ 0 then [t.second] else []
  let zone := (t.offset.map fun o => ", tzinfo=" ++ offsetLiteral o).getD ""
  "datetime.datetime(" ++ ", ".intercalate ((base ++ fine).map fun n => toString n) ++ zone ++ ")"

end Timestamp

namespace Value

def boolText (b : Bool) : String := if b then "True" else "False"

def addressText (address : Nat) : String := "0x" ++ String.ofList (Text.hex 1 address)

def bytesLiteral : BytesForm → List UInt8 → String
  | .fixed, data => Text.quotedBytes data
  | .growable, data => "bytearray(" ++ Text.quotedBytes data ++ ")"
  | .view address, _ => "<memory at " ++ addressText address ++ ">"

def seqLiteral : SeqKind → List String → String
  | .list, items => "[" ++ ", ".intercalate items ++ "]"
  | .tuple, [item] => "(" ++ item ++ ",)"
  | .tuple, items => "(" ++ ", ".intercalate items ++ ")"
  | .set, [] => "set()"
  | .set, items => "\x7b" ++ ", ".intercalate items ++ "\x7d"
  | .frozenSet, [] => "frozenset()"
  | .frozenSet, items => "frozenset(\x7b" ++ ", ".intercalate items ++ "\x7d)"

def mapLiteral (kind : MapKind) (entries : List String) : String :=
  let body := "\x7b" ++ ", ".intercalate entries ++ "\x7d"
  match kind with
  | .plain => body
  | .readOnly => "mappingproxy(" ++ body ++ ")"

/-- The literal of a foreign object, or its kind and address where it has none. -/
def foreignLiteral : ForeignKind → String
  | .object address => "<object object at " ++ addressText address ++ ">"
  | .complex => "(1+2j)"
  | .range => "range(0, 3)"
  | .time => "datetime.time(1, 2, 3)"
  | .timedelta => "datetime.timedelta(days=1)"
  | .uuid => "UUID('00000000-0000-0000-0000-000000000001')"
  | .deque => "deque([1, 2])"
  | .generator address => "<generator object <genexpr> at " ++ addressText address ++ ">"

def foreignText : ForeignKind → String
  | .time => "01:02:03"
  | .timedelta => "1 day, 0:00:00"
  | .uuid => "00000000-0000-0000-0000-000000000001"
  | kind => foreignLiteral kind

mutual

def inspect : Value → String
  | .null => "None"
  | .bool b => boolText b
  | .int _ n => toString n
  | .float _ x => x.text
  | .decimal d => "Decimal('" ++ d.text ++ "')"
  | .text s => Text.quoted s
  | .bytes form data => bytesLiteral form data
  | .wrapped form data => "Binary(" ++ bytesLiteral form data ++ ")"
  | .date d => d.literal
  | .timestamp t => t.literal
  | .seq kind items => seqLiteral kind (inspectEach items)
  | .map kind entries => mapLiteral kind (inspectEntries entries)
  | .foreign kind => foreignLiteral kind

def inspectEach : List Value → List String
  | [] => []
  | v :: vs => inspect v :: inspectEach vs

def inspectEntries : List (Value × Value) → List String
  | [] => []
  | (k, v) :: es => (inspect k ++ ": " ++ inspect v) :: inspectEntries es

end

def plainText : Value → String
  | .text s => s
  | .decimal d => d.text
  | .date d => d.iso
  | .timestamp t => t.isoWith " "
  | .foreign kind => foreignText kind
  | v => v.inspect

/-- The least number that has too many digits to be written. -/
def leastOverlong : Nat := Nat.pow (Nat.pow 10 100) 43

mutual

/-- Whether the literal of a value shows an integer with too many digits to be written. -/
def showsOverlong : Value → Bool
  | .int _ n => decide (leastOverlong ≤ n.natAbs)
  | .seq _ items => someShowsOverlong items
  | .map _ entries => someEntryShowsOverlong entries
  | _ => false

def someShowsOverlong : List Value → Bool
  | [] => false
  | v :: vs => showsOverlong v || someShowsOverlong vs

def someEntryShowsOverlong : List (Value × Value) → Bool
  | [] => false
  | (k, v) :: es => showsOverlong k || showsOverlong v || someEntryShowsOverlong es

end

/-- The plain text of a value that has one. -/
def written : Value → Except Failure String
  | .wrapped form _ => .error (.textless (.notText form.kindName))
  | v => if v.showsOverlong then .error (.textless .tooManyDigits) else .ok v.plainText

/-- The name of the field that a key stands for. -/
def fieldName (key : Value) : Except Failure String := key.written

end Value

end TabularSchema
