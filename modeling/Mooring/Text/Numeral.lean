import Mooring.Text.Blank
import Mooring.Text.Digit

/-! Whole numbers read from free text. A numeral may stand between blanks, carry one sign, use the
decimal digits of any script and group its digits by single underscores; a hexadecimal one may
open with `0x`. Decimal numerals of more than `decimalLimit` digits are refused before their
value is computed. -/

namespace Mooring.Text

inductive Radix where
  | ten
  | sixteen
  deriving DecidableEq, Repr

def Radix.toNat : Radix → Nat
  | .ten => 10
  | .sixteen => 16

inductive NumeralFault where
  /-- The text is no numeral of this radix. -/
  | malformed (radix : Radix) (text : String)
  /-- The numeral has more digits than are converted. -/
  | tooLong (digits : Nat)
  deriving DecidableEq, Repr

def decimalLimit : Nat := 4300

/-- The worth of a character as a digit of a numeral. -/
def Radix.digit? (radix : Radix) (c : Char) : Option Nat :=
  match radix, digitValue? c with
  | _, some d => some d
  | .ten, none => none
  | .sixteen, none =>
    if 'a' ≤ c ∧ c ≤ 'f' then some (c.toNat - 'a'.toNat + 10)
    else if 'A' ≤ c ∧ c ≤ 'F' then some (c.toNat - 'A'.toNat + 10)
    else none

/-- The blanks that may surround a numeral: those of ASCII text editors and every blank
outside ASCII. -/
def isNumeralBlank (c : Char) : Bool :=
  (9 ≤ c.toNat && c.toNat ≤ 13) || c == ' ' || (127 ≤ c.toNat && isBlank c)

/-- The digits in front of a text and what follows them. An underscore joins two digits;
anywhere else the numeral is broken. -/
def takeDigits (radix : Radix) : List Char → Option (List Nat × List Char)
  | [] => some ([], [])
  | c :: cs =>
    match radix.digit? c with
    | none => if c == '_' then none else some ([], c :: cs)
    | some d =>
      match cs with
      | '_' :: c' :: cs' =>
        if (radix.digit? c').isSome then
          (takeDigits radix (c' :: cs')).map (fun (ds, rest) => (d :: ds, rest))
        else none
      | cs => (takeDigits radix cs).map (fun (ds, rest) => (d :: ds, rest))
  termination_by cs => cs.length

/-- The number whose digits are given, most significant first. -/
def ofDigits (radix : Radix) (ds : List Nat) : Nat :=
  ds.foldl (fun n d => radix.toNat * n + d) 0

def takeSign : List Char → Bool × List Char
  | '-' :: cs => (true, cs)
  | '+' :: cs => (false, cs)
  | cs => (false, cs)

/-- Drops the mark of a hexadecimal numeral, a zero of any script and an `x`, and the one underscore
that may follow it. -/
def dropRadixMark (radix : Radix) (cs : List Char) : List Char :=
  match radix, cs with
  | .sixteen, zero :: x :: rest =>
    if digitValue? zero = some 0 ∧ (x = 'x' ∨ x = 'X') then
      match rest with
      | '_' :: rest => rest
      | rest => rest
    else cs
  | _, cs => cs

/-- The whole number that a text writes. -/
def readInt (radix : Radix) (text : List Char) : Except NumeralFault Int :=
  let malformed : Except NumeralFault Int := .error (.malformed radix (String.ofList text))
  let (negative, body) := takeSign (text.dropWhile isNumeralBlank)
  match takeDigits radix (dropRadixMark radix body) with
  | none => malformed
  | some (ds, rest) =>
    if radix = .ten ∧ decimalLimit < ds.length then .error (.tooLong ds.length)
    else if ds.isEmpty || !(rest.all isNumeralBlank) then malformed
    else
      let n : Int := ofDigits radix ds
      .ok (if negative then -n else n)

end Mooring.Text
