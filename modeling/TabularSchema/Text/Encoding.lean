import TabularSchema.Text.Quoted
import TabularSchema.Text.Surrogate

/-!
# Text encodings

Byte strings as text in UTF-8, UTF-16 or UTF-32. The encoding is told by a byte order mark or by the
places of zero bytes. A byte string that is no text in its encoding is refused with the bytes at
fault. Surrogates may be let through, as the replacement character.
-/

namespace TabularSchema.Text

/-- Bytes that do not decode: where they stand, which they are, and why. -/
structure DecodeFault where
  codec : String
  position : Nat
  bytes : List UInt8
  reason : String
deriving DecidableEq, Repr

/-- The place of a fault: a single byte with its value, or a range of places. -/
def DecodeFault.span (f : DecodeFault) : String :=
  match f.bytes with
  | [b] => "byte 0x" ++ String.ofList (hex 2 b.toNat) ++ " in position " ++ toString f.position
  | bs =>
    "bytes in position " ++ toString f.position ++ "-" ++ toString (f.position + bs.length - 1)

namespace Utf8

/-- A character of which not all bytes have been seen: the bytes so far, the bits so far, the number
of bytes to come, and the bounds of the next one. -/
structure Pending where
  seen : List UInt8
  code : Nat
  missing : Nat
  low : Nat
  high : Nat

/-- What a first byte announces: nothing for a character of one byte, otherwise what is to come.
With `surrogates` the codes of surrogates are let through. -/
def start? (surrogates : Bool) (b : UInt8) : Option Pending :=
  let n := b.toNat
  if n ≤ 0x7f then some ⟨[b], n, 0, 0x80, 0xbf⟩
  else if 0xc2 ≤ n ∧ n ≤ 0xdf then some ⟨[b], n - 0xc0, 1, 0x80, 0xbf⟩
  else if n = 0xe0 then some ⟨[b], 0, 2, 0xa0, 0xbf⟩
  else if n = 0xed ∧ ¬ surrogates then some ⟨[b], 0xd, 2, 0x80, 0x9f⟩
  else if 0xe1 ≤ n ∧ n ≤ 0xef then some ⟨[b], n - 0xe0, 2, 0x80, 0xbf⟩
  else if n = 0xf0 then some ⟨[b], 0, 3, 0x90, 0xbf⟩
  else if 0xf1 ≤ n ∧ n ≤ 0xf3 then some ⟨[b], n - 0xf0, 3, 0x80, 0xbf⟩
  else if n = 0xf4 then some ⟨[b], 4, 3, 0x80, 0x8f⟩
  else none

/-- The fault of a character that is not continued. An unfinished surrogate is at fault from its
second byte on. -/
def brokenAt (position : Nat) (p : Pending) (reason : String) : DecodeFault :=
  match p.seen with
  | [b, c] =>
    if b.toNat = 0xed ∧ 0xa0 ≤ c.toNat then ⟨"utf-8", position, [b], "invalid continuation byte"⟩
    else ⟨"utf-8", position, [b, c], reason⟩
  | seen => ⟨"utf-8", position, seen, reason⟩

/-- The code points of a byte string, where `pending` has been seen and the next byte stands at the
given position. -/
def decodeFrom (surrogates : Bool) (position : Nat) (pending : Option Pending) :
    List UInt8 → Except DecodeFault (List Nat)
  | [] =>
    match pending with
    | none => .ok []
    | some p => .error (brokenAt (position - p.seen.length) p "unexpected end of data")
  | b :: bs =>
    match pending with
    | none =>
      match start? surrogates b with
      | none => .error ⟨"utf-8", position, [b], "invalid start byte"⟩
      | some p =>
        if p.missing = 0 then
          (decodeFrom surrogates (position + 1) none bs).map fun ns => p.code :: ns
        else decodeFrom surrogates (position + 1) (some p) bs
    | some p =>
      if p.low ≤ b.toNat ∧ b.toNat ≤ p.high then
        let code := p.code * 64 + (b.toNat - 0x80)
        if p.missing = 1 then
          (decodeFrom surrogates (position + 1) none bs).map fun ns => code :: ns
        else
          decodeFrom surrogates (position + 1)
            (some ⟨p.seen ++ [b], code, p.missing - 1, 0x80, 0xbf⟩) bs
      else .error (brokenAt (position - p.seen.length) p "invalid continuation byte")

end Utf8

def ofUtf8? (bs : List UInt8) : Option String :=
  match Utf8.decodeFrom false 0 none bs with
  | .ok ns => some (String.ofList (ns.map charOf))
  | .error _ => none

inductive ByteOrder where
  | little
  | big
deriving DecidableEq, Repr

namespace ByteOrder

def suffix : ByteOrder → String
  | .little => "-le"
  | .big => "-be"

def number (order : ByteOrder) (bs : List UInt8) : Nat :=
  let bigFirst := match order with
    | .little => bs.reverse
    | .big => bs
  bigFirst.foldl (fun acc b => acc * 256 + b.toNat) 0

end ByteOrder

def units16 (order : ByteOrder) (position : Nat) : List UInt8 → Except DecodeFault (List Nat)
  | [] => .ok []
  | [b] => .error ⟨"utf-16" ++ order.suffix, position, [b], "truncated data"⟩
  | a :: b :: bs =>
    (units16 order (position + 2) bs).map fun ns => order.number [a, b] :: ns

def units32 (order : ByteOrder) (position : Nat) : List UInt8 → Except DecodeFault (List Nat)
  | [] => .ok []
  | a :: b :: c :: d :: bs =>
    let n := order.number [a, b, c, d]
    if 0x110000 ≤ n then
      .error ⟨"utf-32" ++ order.suffix, position, [a, b, c, d],
        "code point not in range(0x110000)"⟩
    else (units32 order (position + 4) bs).map fun ns => n :: ns
  | bs => .error ⟨"utf-32" ++ order.suffix, position, bs, "truncated data"⟩

inductive Encoding where
  | utf8
  | utf16 (order : ByteOrder)
  | utf32 (order : ByteOrder)
deriving DecidableEq, Repr

namespace Encoding

/-- The encoding a byte order mark tells, with the length of the mark. -/
def ofMark? : List UInt8 → Option (Encoding × Nat)
  | 0x00 :: 0x00 :: 0xfe :: 0xff :: _ => some (.utf32 .big, 4)
  | 0xff :: 0xfe :: 0x00 :: 0x00 :: _ => some (.utf32 .little, 4)
  | 0xfe :: 0xff :: _ => some (.utf16 .big, 2)
  | 0xff :: 0xfe :: _ => some (.utf16 .little, 2)
  | 0xef :: 0xbb :: 0xbf :: _ => some (.utf8, 3)
  | _ => none

def ofZeros : List UInt8 → Encoding
  | a :: b :: c :: d :: _ =>
    if a = 0 then if b = 0 then .utf32 .big else .utf16 .big
    else if b = 0 then if c = 0 ∧ d = 0 then .utf32 .little else .utf16 .little
    else .utf8
  | [a, b] => if a = 0 then .utf16 .big else if b = 0 then .utf16 .little else .utf8
  | _ => .utf8

def decode (e : Encoding) (position : Nat) (bs : List UInt8) : Except DecodeFault String :=
  match e with
  | .utf8 =>
    (Utf8.decodeFrom true position none bs).map fun ns => String.ofList (ns.map charOf)
  | .utf16 order => (units16 order position bs).map fun ns => String.ofList (joinUnits ns)
  | .utf32 order => (units32 order position bs).map fun ns => String.ofList (ns.map charOf)

end Encoding

/-- The text of a byte string in the encoding it shows. Places are counted from the first byte,
except behind a mark of UTF-8, where they are counted from behind the mark. -/
def ofBytes (bs : List UInt8) : Except DecodeFault String :=
  match Encoding.ofMark? bs with
  | some (.utf8, n) => Encoding.utf8.decode 0 (bs.drop n)
  | some (e, n) => e.decode n (bs.drop n)
  | none => (Encoding.ofZeros bs).decode 0 bs

end TabularSchema.Text
