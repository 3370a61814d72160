import TabularSchema.Text.Printable

/-!
# Quoted text

A text or a byte string as a quoted literal. Single quotes are used unless the text has one and has
no double quote. The quote, the backslash, tab, newline and carriage return are escaped, and so is
every character without a printed form, by its code point in lower-case hexadecimal.
-/

namespace TabularSchema.Text

/-- The hexadecimal digits of a number, with leading zeros up to a width. -/
def hex (width n : Nat) : List Char :=
  let ds := Nat.toDigits 16 n
  List.replicate (width - ds.length) '0' ++ ds

def singleQuote : Char := Char.ofNat 0x27

def doubleQuote : Char := Char.ofNat 0x22

def quoteFor (cs : List Char) : Char :=
  if singleQuote ∈ cs ∧ doubleQuote ∉ cs then doubleQuote else singleQuote

def escapeChar (quote c : Char) : List Char :=
  if c = quote ∨ c = '\\' then ['\\', c]
  else if c = '\t' then ['\\', 't']
  else if c = '\n' then ['\\', 'n']
  else if c = '\r' then ['\\', 'r']
  else if isPrintable c then [c]
  else if c.toNat ≤ 0xff then '\\' :: 'x' :: hex 2 c.toNat
  else if c.toNat ≤ 0xffff then '\\' :: 'u' :: hex 4 c.toNat
  else '\\' :: 'U' :: hex 8 c.toNat

def quoted (s : String) : String :=
  let q := quoteFor s.toList
  String.ofList (q :: s.toList.flatMap (escapeChar q) ++ [q])

/-- One byte inside a literal in the given quotes; only printable ASCII stands for itself. -/
def escapeByte (quote : Char) (b : UInt8) : List Char :=
  let c := Char.ofNat b.toNat
  if b.toNat < 0x80 then escapeChar quote c else '\\' :: 'x' :: hex 2 b.toNat

def quotedBytes (bs : List UInt8) : String :=
  let q := quoteFor (bs.map (fun b => Char.ofNat b.toNat))
  String.ofList ('b' :: q :: bs.flatMap (escapeByte q) ++ [q])

end TabularSchema.Text
