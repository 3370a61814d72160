import TabularSchema.Number.Binary64.Quotient
import TabularSchema.Settings

/-!
# Sessions

A session is made for a profile and a region, and shared by all who ask for the same within one
window of an hour. `SessionPool` keeps the sessions asked for most recently, at most 32 of them. A
session that cannot be made leaves the pool as it was.
-/

namespace TabularSchema

/-- What a session is asked for: profile, region and window of time. -/
structure SessionKey where
  profile : String
  region : Option String
  window : Int
deriving DecidableEq, Repr

namespace Session

def windowSeconds : Nat := 3600

def windowAt (seconds : Rat) : Int := seconds.num.fdiv ↑(seconds.den * windowSeconds)

/-- The window of a decimal clock reading. The windows on both sides of zero are one. -/
def windowOfDecimal : Decimal → Except Failure Int
  | .nan _ true _ => .error (.trapped [.invalidOperation])
  | .nan _ false _ => .error (.integerOfNaN "NaN")
  | .infinity _ => .error .integerOfInfinity
  | .finite negative c e =>
    match Decimal.Context.arithmetic.wholeQuotient c e windowSeconds with
    | .ok n => .ok (if negative then -(n : Int) else n)
    | .error signals => .error (.trapped signals)

def windowOf : Value → Except Failure Int
  | .bool b => .ok (windowAt (if b then 1 else 0))
  | .int _ n => .ok (windowAt n)
  | .float _ x =>
    match x.toRat? with
    | some seconds => .ok (Binary64.floorQuotient seconds windowSeconds)
    | none => .error (.integerOfNaN "float NaN")
  | .decimal d => windowOfDecimal d
  | .foreign .timedelta => .error (.notIntegral (Value.foreign .timedelta).qualifiedName)
  | v => .error (.unsupported "//" v.qualifiedName "int")

end Session

/-- The arguments a session is made with; an empty region is left out. -/
structure SessionArguments where
  profile : String
  region : Option String
deriving DecidableEq, Repr

namespace SessionArguments

def ofKey (k : SessionKey) : SessionArguments :=
  ⟨k.profile, k.region.filter (· ≠ "")⟩

def toValue (a : SessionArguments) : Value :=
  .record <| ("profile_name", .text a.profile) ::
    match a.region with
    | some r => [("region_name", .text r)]
    | none => []

end SessionArguments

/-- Sessions are numbered in the order they are made in. -/
abbrev SessionId := Nat

/-- The sessions at hand, the one asked for last first, and the arguments of all sessions made. -/
structure SessionPool where
  held : List (SessionKey × SessionId)
  made : List SessionArguments
deriving Repr

namespace SessionPool

def empty : SessionPool := ⟨[], []⟩

def capacity : Nat := 32

def find? (p : SessionPool) (k : SessionKey) : Option SessionId :=
  (p.held.find? (fun e => e.1 == k)).map Prod.snd

/-- Puts a session in front of the others. -/
def touch (p : SessionPool) (k : SessionKey) (s : SessionId) : SessionPool :=
  { p with held := ((k, s) :: p.held.filter (fun e => e.1 != k)).take capacity }

/-- The session for a key: one that is held, or a new one if the profile is known. -/
def get (p : SessionPool) (known : String → Bool) (k : SessionKey) :
    Except Failure (SessionId × SessionPool) :=
  match p.find? k with
  | some s => .ok (s, p.touch k s)
  | none =>
    if known k.profile then
      let s := p.made.length
      .ok (s, SessionPool.touch ⟨p.held, p.made ++ [.ofKey k]⟩ k s)
    else .error (.unknownProfile k.profile)

def acquire (p : SessionPool) (known : String → Bool) (a : Account) (clock : Value) :
    Except Failure (SessionId × SessionPool) := do
  let window ← Session.windowOf clock
  p.get known ⟨a.profile, a.region, window⟩

/-- Asks for the session of a key; a failure leaves the pool as it was. -/
def serve (p : SessionPool) (known : String → Bool) (k : SessionKey) :
    SessionPool × Except Failure SessionId :=
  match p.get known k with
  | .ok (s, p') => (p', .ok s)
  | .error e => (p, .error e)

def step (p : SessionPool) (known : String → Bool) (a : Account) (clock : Value) :
    SessionPool × Except Failure SessionId :=
  match Session.windowOf clock with
  | .ok window => p.serve known ⟨a.profile, a.region, window⟩
  | .error e => (p, .error e)

end SessionPool

end TabularSchema
