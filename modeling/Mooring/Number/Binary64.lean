/-! Finite double-precision numbers as exact fractions: a sign, a significand below `2 ^ 53` and
a power of two. `ofRatio` rounds a fraction to the nearest of them, a tie going to the even
significand; `shortest` finds the fewest decimal digits that round back to the number. -/

namespace Mooring

/-- The number `± significand * 2 ^ exponent`. -/
structure Binary64 where
  negative : Bool
  significand : Nat
  exponent : Int
  deriving DecidableEq, Repr

namespace Binary64

/-- `num / den * 2 ^ (-e)` as a fraction. -/
def scale (num den : Nat) (e : Int) : Nat × Nat :=
  match e with
  | .ofNat k => (num, den * Nat.pow 2 k)
  | .negSucc k => (num * Nat.pow 2 (k + 1), den)

/-- The nearest whole number to a fraction; a half goes to the even neighbour. -/
def roundHalfEven (num den : Nat) : Nat :=
  let q := num / den
  let r := num % den
  if 2 * r < den then q
  else if den < 2 * r then q + 1
  else if q % 2 = 0 then q else q + 1

/-- The power of two at which a fraction has a significand of 53 bits, or the least one there is. -/
def exponentFor (num den : Nat) : Int :=
  let e : Int := (num.log2 : Int) - den.log2 - 52
  let (a, b) := scale num den e
  let e := if a < b * Nat.pow 2 52 then e - 1 else e
  if e < -1074 then -1074 else e

/-- The double nearest to `± num / den`; `none` where it lies beyond the largest one. -/
def ofRatio (negative : Bool) (num den : Nat) : Option Binary64 :=
  if num = 0 then some ⟨negative, 0, -1074⟩
  else
    let e := exponentFor num den
    let (a, b) := scale num den e
    let m := roundHalfEven a b
    let (m, e) := if m = Nat.pow 2 53 then (Nat.pow 2 52, e + 1) else (m, e)
    if 971 < e then none else some ⟨negative, m, e⟩

/-- `± digits * 10 ^ power`, rounded. -/
def ofDecimal (negative : Bool) (digits : Nat) (power : Int) : Option Binary64 :=
  match power with
  | .ofNat k => ofRatio negative (digits * Nat.pow 10 k) 1
  | .negSucc k => ofRatio negative digits (Nat.pow 10 (k + 1))

/-- Numerator and denominator of the magnitude. -/
def ratio (x : Binary64) : Nat × Nat :=
  match x.exponent with
  | .ofNat k => (x.significand * Nat.pow 2 k, 1)
  | .negSucc k => (x.significand, Nat.pow 2 (k + 1))

def isZero (x : Binary64) : Bool := x.significand == 0

/-- The number without its fraction. -/
def truncate (x : Binary64) : Int :=
  let (a, b) := x.ratio
  let n : Int := (a / b : Nat)
  if x.negative then -n else n

def isWhole (x : Binary64) : Bool :=
  let (a, b) := x.ratio
  a % b == 0

/-- The sign and size as a signed numerator over a positive denominator. -/
def signedRatio (x : Binary64) : Int × Nat :=
  let (a, b) := x.ratio
  (if x.negative then -(a : Int) else a, b)

def ofSignedRatio (num : Int) (den : Nat) : Option Binary64 :=
  ofRatio (num < 0) num.natAbs den

/-- The sum, rounded. -/
def add (x y : Binary64) : Option Binary64 :=
  let (a, b) := x.signedRatio
  let (c, d) := y.signedRatio
  ofSignedRatio (a * d + c * b) (b * d)

def le (x y : Binary64) : Bool :=
  let (a, b) := x.signedRatio
  let (c, d) := y.signedRatio
  a * d ≤ c * b

/-- Whether a fraction is at least a power of ten. -/
def reachesPower (num den : Nat) : Int → Bool
  | .ofNat k => den * Nat.pow 10 k ≤ num
  | .negSucc k => den ≤ num * Nat.pow 10 (k + 1)

/-- The power of ten of the leading digit of a positive fraction, counted up from a guess that is
not too large. -/
def leadingPower (num den : Nat) : (tries : Nat) → Int → Int
  | 0, p => p
  | tries + 1, p =>
    if reachesPower num den (p + 1) then leadingPower num den tries (p + 1) else p

/-- The power of ten of the leading digit of a positive fraction. -/
def decimalPower (num den : Nat) : Int :=
  let guess : Int := ((num.log2 : Int) - den.log2) * 30103 / 100000 - 2
  leadingPower num den 6 guess

/-- `num / den / 10 ^ power`, cut to a whole number. -/
def cutAt (num den : Nat) : Int → Nat
  | .ofNat k => num / (den * Nat.pow 10 k)
  | .negSucc k => num * Nat.pow 10 (k + 1) / den

/-- Twice the distance between `num / den` and `digits * 10 ^ power`, over a common scale. -/
def distance (num den digits : Nat) : Int → Nat
  | .ofNat k => ((num : Int) - digits * (den * Nat.pow 10 k : Nat)).natAbs
  | .negSucc k => ((num * Nat.pow 10 (k + 1) : Nat) - (digits * den : Nat) : Int).natAbs

/-- The nearest decimal on one grid that rounds to the number, if one does. -/
def onGrid (x : Binary64) (power : Int) : Option Nat :=
  let (num, den) := x.ratio
  let low := cutAt num den power
  let back (digits : Nat) : Bool := ofDecimal x.negative digits power == some x
  match back low, back (low + 1) with
  | true, true =>
    if distance num den (low + 1) power < distance num den low power then some (low + 1)
    else some low
  | true, false => some low
  | false, true => some (low + 1)
  | false, false => none

/-- The first grid, from coarse to fine, with a decimal that rounds to the number. -/
def searchGrid (x : Binary64) : (tries : Nat) → Int → Nat × Int
  | 0, power => (cutAt x.ratio.1 x.ratio.2 power, power)
  | tries + 1, power =>
    match onGrid x power with
    | some digits => (digits, power)
    | none => searchGrid x tries (power - 1)

/-- Digits and power of ten of the shortest decimal that rounds to the number. -/
def shortest (x : Binary64) : Nat × Int :=
  if x.isZero then (0, 0)
  else
    let (num, den) := x.ratio
    searchGrid x 17 (decimalPower num den)

end Binary64

end Mooring
