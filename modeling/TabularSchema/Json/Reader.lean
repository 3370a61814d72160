import TabularSchema.Failure
import TabularSchema.Json
import TabularSchema.Text.Digit
import TabularSchema.Text.Hex
import TabularSchema.Text.Surrogate

/-!
# Reading JSON

A recursive descent reader. Beyond the standard it accepts the names `NaN`, `Infinity` and
`-Infinity`. Every step consumes a character or opens a bracket, so twice the length of the text
bounds the number of nested calls.
-/

namespace TabularSchema.Json

namespace Reader

def isGap (c : Char) : Bool := c = ' ' || c = '\t' || c = '\n' || c = '\r'

def skipGap (cs : List Char) : List Char := cs.dropWhile isGap

def shortEscape? (c : Char) : Option Nat :=
  if c = '\x22' ∨ c = '\\' ∨ c = '/' then some c.toNat
  else if c = 'b' then some 0x08
  else if c = 'f' then some 0x0c
  else if c = 'n' then some 0x0a
  else if c = 'r' then some 0x0d
  else if c = 't' then some 0x09
  else none

/-- Reads the units of a text up to its closing quote. -/
def units : List Char → Except Failure (List Nat × List Char)
  | [] => .error .malformedJson
  | c :: cs =>
    if c = '\x22' then .ok ([], cs)
    else if c = '\\' then
      match cs with
      | 'u' :: p :: q :: r :: s :: rest =>
        match Text.hexFour? p q r s with
        | some n => (units rest).map fun (ns, rest) => (n :: ns, rest)
        | none => .error .malformedJson
      | e :: rest =>
        match shortEscape? e with
        | some n => (units rest).map fun (ns, rest) => (n :: ns, rest)
        | none => .error .malformedJson
      | [] => .error .malformedJson
    else if c.toNat < 0x20 then .error .malformedJson
    else (units cs).map fun (ns, rest) => (c.toNat :: ns, rest)

def text (cs : List Char) : Except Failure (String × List Char) :=
  (units cs).map fun (ns, rest) => (String.ofList (Text.joinUnits ns), rest)

/-- The most digits an integer may have. -/
def maxDigits : Nat := 4300

/-- Reads the digits before the point: a single zero, or digits that do not start with one. -/
def wholeDigits (cs : List Char) : List Char × List Char :=
  match cs with
  | '0' :: rest => (['0'], rest)
  | cs => (cs.takeWhile Char.isDigit, cs.dropWhile Char.isDigit)

/-- Reads a point with the digits behind it, if both are there. -/
def fractionDigits (cs : List Char) : List Char × List Char :=
  match cs with
  | '.' :: rest =>
    match rest.takeWhile Char.isDigit with
    | [] => ([], cs)
    | ds => (ds, rest.dropWhile Char.isDigit)
  | cs => ([], cs)

def exponent (cs : List Char) : Option Int × List Char :=
  match cs with
  | e :: rest =>
    if e = 'e' ∨ e = 'E' then
      let (negative, rest) := Text.readSign rest
      match rest.takeWhile Char.isDigit with
      | [] => (none, cs)
      | ds =>
        let n : Int := Text.asciiNumber ds
        (some (if negative then -n else n), rest.dropWhile Char.isDigit)
    else (none, cs)
  | [] => (none, cs)

def unsigned (negative : Bool) (cs : List Char) : Except Failure (Json × List Char) :=
  match wholeDigits cs with
  | ([], _) => .error .malformedJson
  | (whole, rest) =>
    let (fraction, rest) := fractionDigits rest
    let (power, rest) := exponent rest
    if fraction.isEmpty && power.isNone then
      if maxDigits < whole.length then .error (.tooManyDigits whole.length)
      else
        let n : Int := Text.asciiNumber whole
        .ok (.int (if negative then -n else n), rest)
    else
      let coefficient := Text.asciiNumber (whole ++ fraction)
      let power := power.getD 0 - (fraction.length : Int)
      .ok (.float (Binary64.ofDecimal negative coefficient power), rest)

def number : List Char → Except Failure (Json × List Char)
  | '-' :: cs => unsigned true cs
  | cs => unsigned false cs

def names : List (List Char × Json) :=
  [("null".toList, .null), ("true".toList, .bool true), ("false".toList, .bool false),
    ("NaN".toList, .float .nan), ("Infinity".toList, .float (.infinity false)),
    ("-Infinity".toList, .float (.infinity true))]

def named? (cs : List Char) : Option (Json × List Char) :=
  (names.find? (fun p => p.1.isPrefixOf cs)).map fun p => (p.2, cs.drop p.1.length)

def scalar (cs : List Char) : Except Failure (Json × List Char) :=
  match named? cs with
  | some r => .ok r
  | none => number cs

mutual

def value : Nat → List Char → Except Failure (Json × List Char)
  | 0, _ => .error .malformedJson
  | fuel + 1, cs =>
    match cs with
    | '\x22' :: cs => (text cs).map fun (s, rest) => (.text s, rest)
    | '[' :: cs =>
      match skipGap cs with
      | ']' :: rest => .ok (.array [], rest)
      | cs => (items fuel cs).map fun (js, rest) => (.array js, rest)
    | '\x7b' :: cs =>
      match skipGap cs with
      | '\x7d' :: rest => .ok (.object [], rest)
      | cs => (members fuel cs).map fun (ms, rest) => (.object ms, rest)
    | cs => scalar cs

def items : Nat → List Char → Except Failure (List Json × List Char)
  | 0, _ => .error .malformedJson
  | fuel + 1, cs => do
    let (j, cs) ← value fuel cs
    match skipGap cs with
    | ']' :: rest => return ([j], rest)
    | ',' :: cs => do
      let (js, rest) ← items fuel (skipGap cs)
      return (j :: js, rest)
    | _ => .error .malformedJson

def members : Nat → List Char → Except Failure (List (String × Json) × List Char)
  | 0, _ => .error .malformedJson
  | fuel + 1, cs =>
    match cs with
    | '\x22' :: cs => do
      let (k, cs) ← text cs
      match skipGap cs with
      | ':' :: cs => do
        let (j, cs) ← value fuel (skipGap cs)
        match skipGap cs with
        | '\x7d' :: rest => return ([(k, j)], rest)
        | ',' :: cs => do
          let (ms, rest) ← members fuel (skipGap cs)
          return ((k, j) :: ms, rest)
        | _ => .error .malformedJson
      | _ => .error .malformedJson
    | _ => .error .malformedJson

end

end Reader

def parse (s : String) : Except Failure Json :=
  let cs := s.toList
  match Reader.value (2 * cs.length + 2) (Reader.skipGap cs) with
  | .ok (j, rest) => if (Reader.skipGap rest).isEmpty then .ok j else .error .malformedJson
  | .error e => .error e

end TabularSchema.Json
