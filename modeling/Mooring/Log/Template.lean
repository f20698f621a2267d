import Mooring.Fault
import Mooring.Number.Rounded
import Mooring.Text.Case
import Mooring.Value.Print

/-! Texts with values put into their places. The values are used up from left to right, and none
may be left over; a place with a key takes the entry of a table instead. Texts are shown as they
are or as literals, whole numbers in three radices, and reals rounded to a number of digits. -/

namespace Mooring.Template

open Text (Place PlaceFault Layout)

/-! ### Values for the places -/

/-- The values that are still to be used, and the table behind them, in which nothing has to be. -/
structure Supply where
  values : List Value
  table : Option Value := none
  deriving Repr

namespace Supply

/-- A single value; tables and lists can be looked into. -/
def ofValue (v : Value) : Supply :=
  match v with
  | .object _ => { values := [v], table := some v }
  | .list _ => { values := [v], table := some v }
  | _ => { values := [v] }

/-- Several values. A table that comes alone and is not empty is a single one. -/
def ofValues (values : List Value) : Supply :=
  match values with
  | [.object (entry :: entries)] => ofValue (.object (entry :: entries))
  | _ => { values }

def next (supply : Supply) : Except PlaceFault (Value × Supply) :=
  match supply.values with
  | v :: values => .ok (v, { supply with values })
  | [] => .error .valueMissing

/-- Goes over to the entry under a key. -/
def lookUp (key : String) (supply : Supply) : Except Problem Supply :=
  match supply.table with
  | some (.object entries) =>
    match Record.get? entries key with
    | some v => .ok { supply with values := [v] }
    | none => .error (.misfit (.missingKey (.text key)))
  | some v => .error (.misfit (.noNamedItems v.typeName))
  | none => .error (.place .noTable)

/-- Nothing may be left over, except in tables. -/
def finish (supply : Supply) : Except PlaceFault Unit :=
  if supply.values.isEmpty || supply.table.isSome then .ok () else .error .valuesLeft

end Supply

/-! ### Sizes -/

def wordLimit : Nat := Nat.pow 2 63

def halfLimit : Nat := Nat.pow 2 31

/-- The width from which no text is laid out. -/
def roomLimit : Nat := Nat.pow 2 32

/-- A value as a whole number, without rounding. -/
def whole? : Value → Option Int
  | .bool b => some (if b then 1 else 0)
  | .int n => some n
  | _ => none

/-- The size that the next value says. -/
def suppliedSize (limit : Nat) (beyond : PlaceFault) (supply : Supply) :
    Except PlaceFault (Int × Supply) := do
  let (v, supply) ← supply.next
  match whole? v with
  | some n => if -(limit : Int) ≤ n ∧ n < limit then return (n, supply) else throw beyond
  | none => throw .sizeNotWhole

/-- The width of a place; a negative one puts the blanks behind the value. -/
def widthOf (place : Place) (supply : Supply) : Except PlaceFault (Layout × Nat × Supply) :=
  match place.width with
  | .absent => .ok (place.layout, 0, supply)
  | .number n => if n < wordLimit then .ok (place.layout, n, supply) else .error .widthTooLarge
  | .fromValue => do
    let (n, supply) ← suppliedSize wordLimit .widthBeyondWord supply
    return ({ place.layout with toLeft := place.layout.toLeft || n < 0 }, n.natAbs, supply)

/-- The precision of a place, if it has one; a negative one counts as zero. -/
def precisionOf (place : Place) (supply : Supply) : Except PlaceFault (Option Nat × Supply) :=
  match place.precision with
  | .absent => .ok (none, supply)
  | .number n => if n < halfLimit then .ok (some n, supply) else .error .precisionTooLarge
  | .fromValue => do
    let (n, supply) ← suppliedSize halfLimit .precisionBeyondWord supply
    return (some n.toNat, supply)

/-! ### Showing values -/

def blanks (n : Nat) : List Char := List.replicate n ' '

def padded (layout : Layout) (width : Nat) (cs : List Char) : List Char :=
  if layout.toLeft then cs ++ blanks (width - cs.length) else blanks (width - cs.length) ++ cs

/-- A number in its place: its sign, the mark of its radix, and its digits. -/
def laidOut (layout : Layout) (width : Nat) (negative : Bool) (mark digits : List Char) :
    List Char :=
  let sign := if negative then ['-'] else if layout.plusSign then ['+']
    else if layout.blankSign then [' '] else []
  let front := sign ++ mark
  if layout.zeros && !layout.toLeft then
    front ++ Number.fillUp (width - front.length) digits
  else padded layout width (front ++ digits)

/-- A number in decimal digits; reals lose their fraction. -/
def decimal? : Value → Option Int
  | .float x => some x.truncate
  | v => whole? v

def decimalOf (letter : Char) (v : Value) : Except PlaceFault Int :=
  match decimal? v with
  | some n => .ok n
  | none => .error (.noNumber letter v.typeName)

def wholeOf (letter : Char) (v : Value) : Except PlaceFault Int :=
  match whole? v with
  | some n => .ok n
  | none => .error (.noWholeNumber letter v.typeName)

def realOf (v : Value) : Except PlaceFault Binary64 :=
  match v, whole? v with
  | .float x, _ => .ok x
  | _, some n =>
    match Binary64.ofSignedRatio n 1 with
    | some x => .ok x
    | none => .error .realTooLarge
  | _, none => .error (.noReal v.typeName)

/-- The largest precision a whole number is filled up to. -/
def digitLimit : Nat := halfLimit - 4

/-- A whole number in a radix, with at least as many digits as the precision says. -/
def wholeInPlace (layout : Layout) (width : Nat) (precision : Option Nat) (radix : Nat)
    (mark : List Char) (n : Int) : Except PlaceFault (List Char) :=
  if digitLimit < precision.getD 0 then .error .tooManyDigits
  else
    .ok (laidOut layout width (n < 0) (if layout.marked then mark else [])
      (Number.fillUp (precision.getD 0) (Nat.toDigits radix n.natAbs)))

/-- A real in digits as the letter of its place has them. -/
def realDigits (marked : Bool) (precision : Nat) (letter : Char) (x : Binary64) : List Char :=
  let (num, den) := x.ratio
  if letter = 'e' ∨ letter = 'E' then Number.exponential marked precision num den
  else if letter = 'f' ∨ letter = 'F' then Number.fixed marked precision num den
  else Number.general marked precision num den

/-- The code point that a value stands for. -/
def charOf : Value → Except PlaceFault Char
  | .text s =>
    match s.toList with
    | [c] => .ok c
    | _ => .error .noChar
  | v =>
    match whole? v with
    | some n => if 0 ≤ n ∧ n < 0x110000 then .ok (Char.ofNat n.toNat) else .error .charBeyondLast
    | none => .error .noChar

/-- Characters beyond ASCII by their numbers. -/
def asciiOnly (cs : List Char) : List Char :=
  cs.flatMap (fun c => if c.toNat < 0x80 then [c] else Text.numberEscape c)

def cutOff (precision : Option Nat) (cs : List Char) : List Char :=
  match precision with
  | some n => cs.take n
  | none => cs

/-- A value in its place. The letters have their usual meanings. -/
def shown (layout : Layout) (width : Nat) (precision : Option Nat) (letter : Char) (offset : Nat)
    (v : Value) : Except PlaceFault (List Char) :=
  let text (cs : List Char) := Except.ok (padded layout width (cutOff precision cs))
  let real : Except PlaceFault (List Char) := do
    let x ← realOf v
    return laidOut layout width x.negative []
      (realDigits layout.marked (precision.getD 6) letter x)
  let upper (cs : Except PlaceFault (List Char)) := cs.map Text.asciiUpper
  match letter with
  | 's' => text v.display.toList
  | 'r' => text v.literal.toList
  | 'a' => text (asciiOnly v.literal.toList)
  | 'c' => (charOf v).map (fun c => padded layout width [c])
  | 'd' | 'i' | 'u' => do
    wholeInPlace layout width precision 10 [] (← decimalOf letter v)
  | 'o' => do wholeInPlace layout width precision 8 ['0', 'o'] (← wholeOf letter v)
  | 'x' => do wholeInPlace layout width precision 16 ['0', 'x'] (← wholeOf letter v)
  | 'X' => do
    upper (wholeInPlace layout width precision 16 ['0', 'x'] (← wholeOf letter v))
  | 'e' | 'f' | 'F' | 'g' => real
  | 'E' | 'G' => upper real
  | _ => .error (.unknownLetter letter offset)

/-! ### Filling -/

/-- Fills one place. -/
def fillPlace (place : Place) (offset : Nat) (supply : Supply) :
    Except Problem (List Char × Supply) := do
  let supply ← match place.key with
    | .absent => pure supply
    | .named key => supply.lookUp key
    | .unclosed => throw (.place (if supply.table.isSome then .keyUnclosed else .noTable))
  let filled : Except PlaceFault (List Char × Supply) := do
    let (layout, width, supply) ← widthOf place supply
    let (precision, supply) ← precisionOf place supply
    match place.letter with
    | none => throw .unfinished
    | some letter =>
      let (v, supply) ← supply.next
      let cs ← shown layout (if width < roomLimit then width else 0) precision letter offset v
      if width < roomLimit then return (cs, supply) else throw .noRoom
  filled.mapError .place

/-- Fills the places of a text from left to right. -/
def fillPieces : List Text.Piece → Supply → Except Problem (List Char)
  | [], supply => do
    supply.finish.mapError .place
    return []
  | .char c :: pieces, supply => do
    let cs ← fillPieces pieces supply
    return c :: cs
  | .place place offset :: pieces, supply => do
    let (shown, supply) ← fillPlace place offset supply
    let cs ← fillPieces pieces supply
    return shown ++ cs

/-- A text with values in its places. -/
def fill (text : String) (supply : Supply) : Except Problem String := do
  return String.ofList (← fillPieces (Text.pieces text.toList) supply)

end Mooring.Template
