import TabularSchema.Text.Digit

/-!
# Dates and timestamps

Calendar dates, and timestamps to the microsecond with an optional offset from universal time, with
their ISO text. A timestamp with an offset denotes an instant, one without does not.
-/

namespace TabularSchema

structure Date where
  year : Nat
  month : Nat
  day : Nat
deriving DecidableEq, Repr

structure Timestamp where
  date : Date
  hour : Nat
  minute : Nat
  second : Nat
  microsecond : Nat
  /-- Microseconds east of universal time. -/
  offset : Option Int
deriving DecidableEq, Repr

def padded (width n : Nat) : String :=
  let ds := Nat.toDigits 10 n
  String.ofList (List.replicate (width - ds.length) '0' ++ ds)

/-- Reads exactly `width` digits from the front of a text. -/
def readFixed? (width : Nat) (cs : List Char) : Option (Nat × List Char) :=
  let ds := cs.take width
  if ds.length = width ∧ ds.all Char.isDigit then
    some (Text.asciiNumber ds, cs.drop width)
  else none

namespace Date

def iso (d : Date) : String :=
  padded 4 d.year ++ "-" ++ padded 2 d.month ++ "-" ++ padded 2 d.day

/-- Days since the first day of the year zero of the proleptic calendar that starts in March. -/
def dayNumber (d : Date) : Int :=
  let y : Int := if d.month ≤ 2 then (d.year : Int) - 1 else d.year
  let m : Int := if d.month ≤ 2 then (d.month : Int) + 9 else (d.month : Int) - 3
  365 * y + y / 4 - y / 100 + y / 400 + (153 * m + 2) / 5 + ((d.day : Int) - 1)

def read? (cs : List Char) : Option (Date × List Char) := do
  let (year, cs) ← readFixed? 4 cs
  let '-' :: cs := cs | none
  let (month, cs) ← readFixed? 2 cs
  let '-' :: cs := cs | none
  let (day, cs) ← readFixed? 2 cs
  return (⟨year, month, day⟩, cs)

def parse? (s : String) : Option Date :=
  match read? s.toList with
  | some (d, []) => some d
  | _ => none

end Date

namespace Timestamp

/-- The text of an offset from universal time, with seconds and microseconds where it has some. -/
def offsetText (offset : Int) : String :=
  let micros := offset.natAbs
  let n := micros / 1000000
  let base := padded 2 (n / 3600) ++ ":" ++ padded 2 (n / 60 % 60)
  (if offset < 0 then "-" else "+") ++ base ++
    (if micros % 60000000 = 0 then "" else ":" ++ padded 2 (n % 60)) ++
    (if micros % 1000000 = 0 then "" else "." ++ padded 6 (micros % 1000000))

def isoWith (separator : String) (t : Timestamp) : String :=
  t.date.iso ++ separator ++ padded 2 t.hour ++ ":" ++ padded 2 t.minute ++ ":" ++
    padded 2 t.second ++ (if t.microsecond = 0 then "" else "." ++ padded 6 t.microsecond) ++
    (t.offset.map offsetText).getD ""

def iso (t : Timestamp) : String := t.isoWith "T"

def clock (t : Timestamp) : Int :=
  ((t.date.dayNumber * 24 + t.hour) * 60 + t.minute) * 60000000 + t.second * 1000000 + t.microsecond

/-- Microseconds on the clock of universal time; without an offset the own clock is taken. -/
def instant (t : Timestamp) : Int :=
  t.clock - t.offset.getD 0

/-- Reads the fraction of a second, to the microsecond. -/
def readFraction : List Char → Nat × List Char
  | '.' :: cs =>
    let ds := cs.takeWhile Char.isDigit
    let six := (ds ++ List.replicate 6 '0').take 6
    (Text.asciiNumber six, cs.dropWhile Char.isDigit)
  | cs => (0, cs)

def readClock? (cs : List Char) : Option (Nat × Nat × Nat × List Char) := do
  let (hour, cs) ← readFixed? 2 cs
  let ':' :: cs := cs | none
  let (minute, cs) ← readFixed? 2 cs
  match cs with
  | ':' :: cs =>
    let (second, cs) ← readFixed? 2 cs
    return (hour, minute, second, cs)
  | cs => return (hour, minute, 0, cs)

/-- Reads an offset that takes up the whole text. A fraction counts only beside whole seconds. -/
def readOffset? : List Char → Option (Option Int)
  | [] => some none
  | ['Z'] => some (some 0)
  | sign :: cs => do
    let (hour, minute, second, cs) ← readClock? cs
    let (micro, []) := readFraction cs | none
    let seconds := hour * 3600 + minute * 60 + second
    let n : Int := if seconds = 0 then 0 else seconds * 1000000 + micro
    if sign = '+' then return some n
    else if sign = '-' then return some (-n)
    else none

/-- Reads a whole text as a timestamp; a date alone stands for its first moment. -/
def parse? (s : String) : Option Timestamp := do
  let (date, cs) ← Date.read? s.toList
  let _ :: cs := cs | return ⟨date, 0, 0, 0, 0, none⟩
  let (hour, minute, second, cs) ← readClock? cs
  let (microsecond, cs) := readFraction cs
  let offset ← readOffset? cs
  return ⟨date, hour, minute, second, microsecond, offset⟩

end Timestamp

end TabularSchema
