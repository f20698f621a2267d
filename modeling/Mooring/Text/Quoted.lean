import Mooring.Text.Printable

/-! Text and bytes in quotes, as messages show them. The quote is `'`, or `"` where the content
holds a `'` and no `"`; the quote in use and the backslash are escaped, and whatever has no
printed form appears by its number. -/

namespace Mooring.Text

def hexDigit (n : Nat) : Char :=
  if n < 10 then Char.ofNat ('0'.toNat + n) else Char.ofNat ('a'.toNat + (n - 10))

/-- The last `width` hexadecimal digits of a number. -/
def hexDigits : (width : Nat) → Nat → List Char
  | 0, _ => []
  | width + 1, n => hexDigits width (n / 16) ++ [hexDigit (n % 16)]

/-- The quote around a content, told by which quotes the content holds. -/
def quoteFor (cs : List Char) : Char :=
  if cs.contains '\'' && !cs.contains '"' then '"' else '\''

/-- The escape of a character by its number. -/
def numberEscape (c : Char) : List Char :=
  let n := c.toNat
  if n < 0x100 then '\\' :: 'x' :: hexDigits 2 n
  else if n < 0x10000 then '\\' :: 'u' :: hexDigits 4 n
  else '\\' :: 'U' :: hexDigits 8 n

def escapeChar (quote c : Char) : List Char :=
  if c = quote ∨ c = '\\' then ['\\', c]
  else if c = '\n' then ['\\', 'n']
  else if c = '\r' then ['\\', 'r']
  else if c = '\t' then ['\\', 't']
  else if isPrintable c then [c]
  else numberEscape c

/-- A text in quotes. -/
def quoted (cs : List Char) : List Char :=
  let quote := quoteFor cs
  quote :: cs.flatMap (escapeChar quote) ++ [quote]

/-- Bytes read one character each. -/
def latin (bs : List UInt8) : List Char := bs.map (fun b => Char.ofNat b.toNat)

def escapeByte (quote c : Char) : List Char :=
  if c.toNat < 0x7f then escapeChar quote c else numberEscape c

/-- Bytes in quotes, marked as bytes. -/
def quotedBytes (bs : List UInt8) : List Char :=
  let cs := latin bs
  let quote := quoteFor cs
  'b' :: quote :: cs.flatMap (escapeByte quote) ++ [quote]

end Mooring.Text
