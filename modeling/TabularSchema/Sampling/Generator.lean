import TabularSchema.Number.Decimal

/-!
# The random generator

A Mersenne Twister of 624 words of 32 bits, seeded by an integer of any size through its magnitude.
A draw is a number with 53 random bits, read as a fraction of `2^53`.
-/

namespace TabularSchema

/-- The words of the generator and the place of the next one. -/
structure Generator where
  words : Array UInt32
  position : Nat

namespace Generator

def size : Nat := 624

/-- The distance of the word that is mixed into each word on renewal. -/
def middle : Nat := 397

def word (ws : Array UInt32) (i : Nat) : UInt32 := ws.getD i 0

def wordsOf (seed : UInt32) : Array UInt32 :=
  (List.range (size - 1)).foldl
    (fun ws i =>
      let last := word ws i
      ws.push ((last ^^^ (last >>> 30)) * 1812433253 + UInt32.ofNat (i + 1)))
    #[seed]

/-- The digits of a number in base `2^32`, lowest first; at most `fuel` of them. -/
def chunks : Nat → Nat → List UInt32
  | 0, _ => []
  | fuel + 1, n => if n = 0 then [] else UInt32.ofNat n :: chunks fuel (n / Nat.pow 2 32)

/-- The key of a seed: the digits of its magnitude, and a single zero for the seed zero. -/
def key (seed : Int) : Array UInt32 :=
  match chunks (seed.natAbs.log2 / 32 + 1) seed.natAbs with
  | [] => #[0]
  | cs => cs.toArray

/-- The words under treatment, the place of the next one, and the place in the key. -/
structure Mixing where
  words : Array UInt32
  place : Nat
  keyPlace : Nat

/-- Goes to the next place; from the last one to the second, after the first has been
overwritten. -/
def Mixing.advance (m : Mixing) (keyPlace : Nat) : Mixing :=
  if m.place + 1 < size then ⟨m.words, m.place + 1, keyPlace⟩
  else ⟨m.words.setIfInBounds 0 (word m.words (size - 1)), 1, keyPlace⟩

def Mixing.spread (m : Mixing) (factor : UInt32) : UInt32 :=
  let before := word m.words (m.place - 1)
  word m.words m.place ^^^ ((before ^^^ (before >>> 30)) * factor)

def Mixing.addKey (ks : Array UInt32) (m : Mixing) : Mixing :=
  let value := m.spread 1664525 + word ks m.keyPlace + UInt32.ofNat m.keyPlace
  let next := if m.keyPlace + 1 < ks.size then m.keyPlace + 1 else 0
  Mixing.advance ⟨m.words.setIfInBounds m.place value, m.place, m.keyPlace⟩ next

def Mixing.addPlace (m : Mixing) : Mixing :=
  let value := m.spread 1566083941 - UInt32.ofNat m.place
  Mixing.advance ⟨m.words.setIfInBounds m.place value, m.place, m.keyPlace⟩ m.keyPlace

/-- The generator of a seed. A seed and its negative have the same. -/
def ofSeed (seed : Int) : Generator :=
  let ks := key seed
  let start : Mixing := ⟨wordsOf 19650218, 1, 0⟩
  let keyed := (List.range (max size ks.size)).foldl (fun m _ => m.addKey ks) start
  let mixed := (List.range (size - 1)).foldl (fun m _ => m.addPlace) keyed
  ⟨mixed.words.setIfInBounds 0 0x80000000, size⟩

def renewedWord (ws : Array UInt32) (i : Nat) : UInt32 :=
  let joined := (word ws i &&& 0x80000000) ||| (word ws ((i + 1) % size) &&& 0x7fffffff)
  let odd : UInt32 := if joined &&& 1 = 0 then 0 else 0x9908b0df
  word ws ((i + middle) % size) ^^^ (joined >>> 1) ^^^ odd

def renew (ws : Array UInt32) : Array UInt32 :=
  (List.range size).foldl (fun ws i => ws.setIfInBounds i (renewedWord ws i)) ws

def temper (w : UInt32) : UInt32 :=
  let w := w ^^^ (w >>> 11)
  let w := w ^^^ ((w <<< 7) &&& 0x9d2c5680)
  let w := w ^^^ ((w <<< 15) &&& 0xefc60000)
  w ^^^ (w >>> 18)

def nextWord (g : Generator) : UInt32 × Generator :=
  if g.position < size then (temper (word g.words g.position), ⟨g.words, g.position + 1⟩)
  else
    let ws := renew g.words
    (temper (word ws 0), ⟨ws, 1⟩)

/-- The next 53 random bits: 27 of one word above 26 of the following one. -/
def nextBits (g : Generator) : Nat × Generator :=
  let (a, g) := g.nextWord
  let (b, g) := g.nextWord
  ((a >>> 5).toNat * Nat.pow 2 26 + (b >>> 6).toNat, g)

def drawBits : Nat := 53

/-- The next draw, a fraction of `2^53` in decimal places. -/
def draw (g : Generator) : Decimal × Generator :=
  let (n, g) := g.nextBits
  (.finite false (n * Nat.pow 5 drawBits) (-(drawBits : Int)), g)

end Generator

end TabularSchema
