import Mooring.Text.Quoted
import Mooring.Text.Utf8

/-! Percent encoding. Letters, digits and `_.-~` stand for themselves, with whatever else is
declared safe; every other character is written as its UTF-8 bytes, each as `%` and two digits. -/

namespace Mooring.Text

def isUnreserved (c : Char) : Bool := c.isAlphanum || ['_', '.', '-', '~'].contains c

def percentByte (b : UInt8) : List Char := '%' :: (hexDigits 2 b.toNat).map Char.toUpper

def percentEncode (safe : List Char) (cs : List Char) : List Char :=
  cs.flatMap (fun c =>
    if isUnreserved c || safe.contains c then [c] else (encodeChar c).flatMap percentByte)

end Mooring.Text
