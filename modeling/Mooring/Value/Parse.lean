import Mooring.Text.Quoted
import Mooring.Value

/-! Values read from JSON. A number without point and exponent is an integer of any size; any other
is the nearest double. Each reader answers what it read from the front of a text, and the rest. -/

namespace Mooring.Value

def skipBlanks (cs : List Char) : List Char :=
  cs.dropWhile (fun c => c == ' ' || c == '\t' || c == '\n' || c == '\r')

/-! ### Texts -/

def hexValue? (c : Char) : Option Nat :=
  if '0' ≤ c ∧ c ≤ '9' then some (c.toNat - '0'.toNat)
  else if 'a' ≤ c ∧ c ≤ 'f' then some (c.toNat - 'a'.toNat + 10)
  else if 'A' ≤ c ∧ c ≤ 'F' then some (c.toNat - 'A'.toNat + 10)
  else none

/-- A UTF-16 unit in four hexadecimal digits. -/
def takeUnit (cs : List Char) : Option (Nat × List Char) := do
  let digits ← (cs.take 4).mapM hexValue?
  if digits.length = 4 then return (digits.foldl (fun n d => 16 * n + d) 0, cs.drop 4) else none

def isHighUnit (unit : Nat) : Bool := 0xd800 ≤ unit && unit < 0xdc00

/-- A character by its one or two units. -/
def takeUnits (cs : List Char) : Option (Char × List Char) := do
  let (unit, rest) ← takeUnit cs
  if isHighUnit unit then
    match rest with
    | '\\' :: 'u' :: rest => do
      let (low, rest) ← takeUnit rest
      return (Char.ofNat (0x10000 + (unit - 0xd800) * 0x400 + (low - 0xdc00)), rest)
    | _ => none
  else return (Char.ofNat unit, rest)

/-- The character after a backslash. -/
def unescape? : Char → Option Char
  | 'n' => some '\n'
  | 't' => some '\t'
  | 'r' => some '\r'
  | 'b' => some '\x08'
  | 'f' => some '\x0c'
  | '"' => some '"'
  | '\\' => some '\\'
  | '/' => some '/'
  | _ => none

/-- The characters up to the closing quote. -/
def takeText : (budget : Nat) → List Char → Option (List Char × List Char)
  | 0, _ => none
  | _, [] => none
  | _, '"' :: cs => some ([], cs)
  | budget + 1, '\\' :: 'u' :: cs => do
    let (c, rest) ← takeUnits cs
    let (more, rest) ← takeText budget rest
    return (c :: more, rest)
  | budget + 1, '\\' :: c :: cs => do
    let c ← unescape? c
    let (more, rest) ← takeText budget cs
    return (c :: more, rest)
  | budget + 1, c :: cs => do
    let (more, rest) ← takeText budget cs
    return (c :: more, rest)

/-! ### Numbers -/

def takeDigits (cs : List Char) : List Char × List Char :=
  (cs.takeWhile Char.isDigit, cs.dropWhile Char.isDigit)

def natOfDigits (digits : List Char) : Nat :=
  digits.foldl (fun n c => 10 * n + (c.toNat - '0'.toNat)) 0

/-- The digits behind a point, if there is one. -/
def takeFraction? (cs : List Char) : Option (List Char × List Char) :=
  match cs with
  | '.' :: cs => some (takeDigits cs)
  | _ => none

/-- The exponent, if there is one. -/
def takeExponent? (cs : List Char) : Option (Int × List Char) :=
  match cs with
  | e :: cs =>
    if e ≠ 'e' ∧ e ≠ 'E' then none
    else
      let (negative, cs) := match cs with
        | '-' :: cs => (true, cs)
        | '+' :: cs => (false, cs)
        | cs => (false, cs)
      let (digits, rest) := takeDigits cs
      let n : Int := natOfDigits digits
      some (if negative then -n else n, rest)
  | [] => none

/-- The largest double. -/
def largest : Binary64 := ⟨false, Nat.pow 2 53 - 1, 971⟩

/-- Exponents beyond this bound only give zero or more than the largest double. -/
def exponentBound : Int := 5000

/-- The double nearest to a decimal; one beyond the largest is taken for that. -/
def double (negative : Bool) (digits : Nat) (power : Int) : Binary64 :=
  if digits = 0 ∨ power < -exponentBound then ⟨negative, 0, -1074⟩
  else if exponentBound < power then { largest with negative }
  else (Binary64.ofDecimal negative digits power).getD { largest with negative }

def takeNumber (cs : List Char) : Option (Value × List Char) :=
  let (negative, cs) := match cs with
    | '-' :: cs => (true, cs)
    | cs => (false, cs)
  let (whole, rest) := takeDigits cs
  if whole.isEmpty then none
  else
    match takeFraction? rest, takeExponent? rest with
    | none, none =>
      let n : Int := natOfDigits whole
      some (.int (if negative then -n else n), rest)
    | none, some (power, rest) =>
      some (.float (double negative (natOfDigits whole) power), rest)
    | some (fraction, rest), _ =>
      let (power, rest) := (takeExponent? rest).getD (0, rest)
      some (.float
        (double negative (natOfDigits (whole ++ fraction)) (power - fraction.length)), rest)

/-! ### Values -/

mutual

def takeValue : (budget : Nat) → List Char → Option (Value × List Char)
  | 0, _ => none
  | budget + 1, cs =>
    match skipBlanks cs with
    | 'n' :: 'u' :: 'l' :: 'l' :: rest => some (.null, rest)
    | 't' :: 'r' :: 'u' :: 'e' :: rest => some (.bool true, rest)
    | 'f' :: 'a' :: 'l' :: 's' :: 'e' :: rest => some (.bool false, rest)
    | '"' :: rest => do
      let (content, rest) ← takeText budget rest
      return (.text (String.ofList content), rest)
    | '[' :: rest =>
      match skipBlanks rest with
      | ']' :: rest => some (.list [], rest)
      | rest => do
        let (items, rest) ← takeItems budget rest
        return (.list items, rest)
    | '\x7b' :: rest =>
      match skipBlanks rest with
      | '\x7d' :: rest => some (.object [], rest)
      | rest => do
        let (entries, rest) ← takeEntries budget rest
        return (.object (Record.ofPairs entries), rest)
    | rest => takeNumber rest

def takeItems : (budget : Nat) → List Char → Option (List Value × List Char)
  | 0, _ => none
  | budget + 1, cs => do
    let (item, rest) ← takeValue budget cs
    match skipBlanks rest with
    | ',' :: rest =>
      let (items, rest) ← takeItems budget rest
      return (item :: items, rest)
    | ']' :: rest => return ([item], rest)
    | _ => none

def takeEntries : (budget : Nat) → List Char → Option (List (String × Value) × List Char)
  | 0, _ => none
  | budget + 1, cs =>
    match skipBlanks cs with
    | '"' :: rest => do
      let (key, rest) ← takeText budget rest
      match skipBlanks rest with
      | ':' :: rest =>
        let (value, rest) ← takeValue budget rest
        let entry := (String.ofList key, value)
        match skipBlanks rest with
        | ',' :: rest =>
          let (entries, rest) ← takeEntries budget rest
          return (entry :: entries, rest)
        | '\x7d' :: rest => return ([entry], rest)
        | _ => none
      | _ => none
    | _ => none

end

/-- The value that a text writes in JSON. -/
def parse (text : String) : Option Value :=
  let cs := text.toList
  match takeValue (2 * cs.length + 2) cs with
  | some (v, rest) => if (skipBlanks rest).isEmpty then some v else none
  | none => none

end Mooring.Value
