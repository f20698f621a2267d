import Mooring.Text.Blank
import Mooring.Text.Numeral
import Mooring.Value.Print

/-! Dotted versions, ordered by their numbers. Of each part only the leading digits count, a part
without any counts as zero, and missing parts are zero; so `1.6` and `1.6.0-ce` are the same
version. The key of a version, its parts without the zeros at the end, is the same exactly for
versions that compare as equal. -/

namespace Mooring

structure Version where
  /-- The text that was read; there may have been none. -/
  source : Option String
  parts : List Nat
  deriving DecidableEq, Repr

namespace Version

open Text

/-- The number at the front of a part, zero where there is none. -/
def readPart (piece : List Char) : Except NumeralFault Nat :=
  let digits := piece.takeWhile isDigit
  if decimalLimit < digits.length then .error (.tooLong digits.length)
  else .ok (digitsValue digits)

def pieces (text : List Char) : List (List Char) := splitAt (· == '.') (trim text)

def read (source : Option String) : Except NumeralFault Version := do
  let parts ← (pieces ((source.getD "").toList)).mapM readPart
  return ⟨source, parts⟩

/-- Orders lists of numbers, the shorter one going on with zeros. -/
def compareParts : List Nat → List Nat → Ordering
  | [], [] => .eq
  | a :: as, [] => if a = 0 then compareParts as [] else .gt
  | [], b :: bs => if b = 0 then compareParts [] bs else .lt
  | a :: as, b :: bs => if a < b then .lt else if b < a then .gt else compareParts as bs

def compare (v w : Version) : Ordering := compareParts v.parts w.parts

def same (v w : Version) : Bool := v.compare w == .eq

def less (v w : Version) : Bool := v.compare w == .lt

def atLeast (v w : Version) : Bool := v.compare w != .lt

def dropTrailingZeros (parts : List Nat) : List Nat :=
  (parts.reverse.dropWhile (· == 0)).reverse

def key (v : Version) : List Nat := dropTrailingZeros v.parts

/-- How a version appears in diagnostics. -/
def describe (v : Version) : String :=
  "ComparableVersion(" ++ (Value.ofOption .text v.source).literal ++ ")"

/-- Sorts by version, oldest or newest first; equal versions keep their order either way. -/
def sort (newestFirst : Bool) (versions : List Version) : List Version :=
  versions.mergeSort (fun v w => if newestFirst then v.atLeast w else w.atLeast v)

/-- The first of each class of equal versions. -/
def distinct (versions : List Version) : List Version :=
  versions.foldl (fun kept v => if kept.any (·.same v) then kept else kept ++ [v]) []

end Version

/-- Whether one version text is equal to or newer than another. -/
def isAtLeast (version minimum : String) : Except Text.NumeralFault Bool := do
  let v ← Version.read (some version)
  let m ← Version.read (some minimum)
  return v.atLeast m

end Mooring
