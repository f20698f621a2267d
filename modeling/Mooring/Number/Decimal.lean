import Mooring.Number.Binary64

/-! How numbers are written. A double appears in the fewest digits that read back: in positional
notation with at least one decimal while its leading digit stands between `10 ^ -4` and `10 ^ 15`,
and with a two-digit exponent beyond. -/

namespace Mooring.Number

/-- A whole number in decimal digits. -/
def natText (n : Nat) : String := String.ofList (Nat.toDigits 10 n)

def intText (n : Int) : String :=
  if n < 0 then "-" ++ natText n.natAbs else natText n.natAbs

/-- The digits without the zeros at their end, and the power of ten that those stood for. -/
def dropZeros : (digits : List Char) → (power : Int) → List Char × Int
  | digits, power =>
    let kept := (digits.reverse.dropWhile (· == '0')).reverse
    (kept, power + (digits.length - kept.length : Nat))

/-- Digits around a decimal point that stands `places` digits behind the leading one's left side. -/
def positional (digits : List Char) (places : Int) : List Char :=
  if places ≤ 0 then '0' :: '.' :: List.replicate (-places).toNat '0' ++ digits
  else
    let n := places.toNat
    let whole := digits.take n ++ List.replicate (n - digits.length) '0'
    let rest := digits.drop n
    whole ++ '.' :: (if rest.isEmpty then ['0'] else rest)

/-- A power of ten, in at least two digits. -/
def powerMark (power : Int) : List Char :=
  let size := (natText power.natAbs).toList
  let size := if size.length < 2 then '0' :: size else size
  'e' :: (if power < 0 then '-' else '+') :: size

/-- Digits with one in front of the point, and a power of ten. -/
def scientific (digits : List Char) (power : Int) : List Char :=
  let mantissa := match digits with
    | [] => ['0']
    | [d] => [d]
    | d :: ds => d :: '.' :: ds
  mantissa ++ powerMark power

/-- A double in the fewest digits that read back. -/
def binary64Text (x : Binary64) : String :=
  let sign := if x.negative then "-" else ""
  if x.isZero then sign ++ "0.0"
  else
    let (value, power) := x.shortest
    let (digits, power) := dropZeros (natText value).toList power
    let places := power + digits.length
    let body := if -4 < places ∧ places ≤ 16 then positional digits places
      else scientific digits (places - 1)
    sign ++ String.ofList body

end Mooring.Number
