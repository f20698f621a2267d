import Mooring.Number.Decimal

/-! Magnitudes rounded to a given number of digits: `fixed` counts digits behind the point,
`exponential` those behind the leading digit, and `general` counts all of them and chooses between
the two. A half goes to the even neighbour. A marked number keeps its point, and its zeros. -/

namespace Mooring.Number

def zeros (n : Nat) : List Char := List.replicate n '0'

/-- Digits with zeros in front, so that there are at least `n`. -/
def fillUp (n : Nat) (digits : List Char) : List Char := zeros (n - digits.length) ++ digits

/-- A point between two runs of digits; it can go where nothing follows. -/
def pointed (marked : Bool) (whole fraction : List Char) : List Char :=
  if fraction.isEmpty && !marked then whole else whole ++ '.' :: fraction

/-- The fraction `num / den` with `places` digits behind the point. -/
def fixed (marked : Bool) (places num den : Nat) : List Char :=
  let n := Binary64.roundHalfEven (num * Nat.pow 10 places) den
  let digits := fillUp (places + 1) (natText n).toList
  let size := digits.length - places
  pointed marked (digits.take size) (digits.drop size)

/-- `num / den / 10 ^ power` as the nearest whole number. -/
def nearestAt (num den : Nat) : Int → Nat
  | .ofNat k => Binary64.roundHalfEven num (den * Nat.pow 10 k)
  | .negSucc k => Binary64.roundHalfEven (num * Nat.pow 10 (k + 1)) den

/-- The first `count + 1` digits of a fraction, rounded, and the power of ten of the leading one. -/
def leading (count num den : Nat) : List Char × Int :=
  if num = 0 then (zeros (count + 1), 0)
  else
    let power := Binary64.decimalPower num den
    let n := nearestAt num den (power - count)
    if n = Nat.pow 10 (count + 1) then ('1' :: zeros count, power + 1)
    else ((natText n).toList, power)

/-- The fraction `num / den` with `places` digits behind the leading one. -/
def exponential (marked : Bool) (places num den : Nat) : List Char :=
  let (digits, power) := leading places num den
  pointed marked (digits.take 1) (digits.drop 1) ++ powerMark power

/-- The digits behind the point without the zeros at their end. -/
def trimmed (marked : Bool) (fraction : List Char) : List Char :=
  if marked then fraction else (fraction.reverse.dropWhile (· == '0')).reverse

/-- The fraction `num / den` in `count` digits, at least one: around a point where the leading
digit stands at or above `10 ^ -4` and the last one not above the units, and with a power of ten
elsewhere. -/
def general (marked : Bool) (count num den : Nat) : List Char :=
  let count := max count 1
  let (digits, power) := leading (count - 1) num den
  let around (whole fraction : List Char) := pointed marked whole (trimmed marked fraction)
  if -4 ≤ power ∧ power < 0 then around ['0'] (zeros ((-power).toNat - 1) ++ digits)
  else if 0 ≤ power ∧ power < count then
    around (digits.take (power.toNat + 1)) (digits.drop (power.toNat + 1))
  else around (digits.take 1) (digits.drop 1) ++ powerMark power

end Mooring.Number
