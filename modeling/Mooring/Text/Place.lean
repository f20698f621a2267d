import Mooring.Text.Digit

/-! Texts with places for values. A place starts at a percent sign and ends with the letter that
says how its value is shown; in between there may be the key of the value, flags for the layout, a
width and a precision. Two percent signs stand for one. -/

namespace Mooring.Text

/-- How a value lies in its place. -/
structure Layout where
  /-- Blanks go behind the value. -/
  toLeft : Bool := false
  /-- A number that is not negative gets a plus sign. -/
  plusSign : Bool := false
  /-- A number that is not negative gets a blank. -/
  blankSign : Bool := false
  /-- A number shows its radix, or keeps its point and its zeros. -/
  marked : Bool := false
  /-- A number is filled up with zeros. -/
  zeros : Bool := false
  deriving DecidableEq, Repr

inductive Size where
  | absent
  | number (n : Nat)
  /-- The next value says it. -/
  | fromValue
  deriving DecidableEq, Repr

inductive Key where
  | absent
  | named (key : String)
  /-- Nothing closes the brackets around it. -/
  | unclosed
  deriving DecidableEq, Repr

structure Place where
  key : Key
  layout : Layout
  width : Size
  precision : Size
  /-- The letter at the end, unless the text ends before it. -/
  letter : Option Char
  deriving DecidableEq, Repr

inductive Piece where
  | char (c : Char)
  /-- A place, and where in the text its letter stands. -/
  | place (place : Place) (offset : Nat)
  deriving DecidableEq, Repr

/-- Why a place cannot be filled. -/
inductive PlaceFault where
  | noTable
  | keyUnclosed
  | widthTooLarge
  | precisionTooLarge
  /-- The text ends inside of a place. -/
  | unfinished
  | unknownLetter (letter : Char) (offset : Nat)
  /-- No whole number where a value gives a size. -/
  | sizeNotWhole
  | widthBeyondWord
  | precisionBeyondWord
  /-- More digits than a number may have. -/
  | tooManyDigits
  /-- Wider than any text can be. -/
  | noRoom
  | noChar
  | charBeyondLast
  | noNumber (letter : Char) (type : String)
  | noWholeNumber (letter : Char) (type : String)
  | noReal (type : String)
  | realTooLarge
  /-- Fewer values than places. -/
  | valueMissing
  /-- More values than places. -/
  | valuesLeft
  deriving DecidableEq, Repr

/-! ### Reading -/

/-- What stands in front of the bracket that closes `depth` open ones, and what behind it. -/
def untilClosed : (depth : Nat) → List Char → Option (List Char × List Char)
  | _, [] => none
  | 0, ')' :: cs => some ([], cs)
  | depth + 1, ')' :: cs => (untilClosed depth cs).map (fun (key, rest) => (')' :: key, rest))
  | depth, '(' :: cs => (untilClosed (depth + 1) cs).map (fun (key, rest) => ('(' :: key, rest))
  | depth, c :: cs => (untilClosed depth cs).map (fun (key, rest) => (c :: key, rest))

def takeKey : List Char → Key × List Char
  | '(' :: cs =>
    match untilClosed 0 cs with
    | some (key, rest) => (.named (String.ofList key), rest)
    | none => (.unclosed, [])
  | cs => (.absent, cs)

def takeLayout (layout : Layout) : List Char → Layout × List Char
  | '-' :: cs => takeLayout { layout with toLeft := true } cs
  | '+' :: cs => takeLayout { layout with plusSign := true } cs
  | ' ' :: cs => takeLayout { layout with blankSign := true } cs
  | '#' :: cs => takeLayout { layout with marked := true } cs
  | '0' :: cs => takeLayout { layout with zeros := true } cs
  | cs => (layout, cs)

def takeSize : List Char → Size × List Char
  | '*' :: cs => (.fromValue, cs)
  | cs =>
    if (cs.takeWhile Char.isDigit).isEmpty then (.absent, cs)
    else (.number (digitsValue (cs.takeWhile Char.isDigit)), cs.dropWhile Char.isDigit)

/-- A precision follows a point; a point alone stands for zero. -/
def takePrecision : List Char → Size × List Char
  | '.' :: cs =>
    match takeSize cs with
    | (.absent, rest) => (.number 0, rest)
    | (size, rest) => (size, rest)
  | cs => (.absent, cs)

/-- One letter for the length of a number may stand before the last and says nothing. -/
def skipLength : List Char → List Char
  | c :: cs => if c = 'h' ∨ c = 'l' ∨ c = 'L' then cs else c :: cs
  | [] => []

def takeLetter : List Char → Option Char × List Char
  | c :: cs => (some c, cs)
  | [] => (none, [])

/-- The place behind a percent sign. -/
def takePlace (cs : List Char) : Place × List Char :=
  let (key, cs) := takeKey cs
  let (layout, cs) := takeLayout {} cs
  let (width, cs) := takeSize cs
  let (precision, cs) := takePrecision cs
  let (letter, cs) := takeLetter (skipLength cs)
  (⟨key, layout, width, precision, letter⟩, cs)

theorem length_of_untilClosed {depth : Nat} {cs key rest : List Char}
    (h : untilClosed depth cs = some (key, rest)) : rest.length ≤ cs.length := by
  fun_induction untilClosed depth cs generalizing key rest with
  | case1 => exact absurd h (by simp)
  | case2 cs =>
    obtain ⟨-, rfl⟩ := Prod.mk.inj (Option.some.inj h)
    exact Nat.le_succ _
  | case3 depth cs ih | case4 depth cs ih | case5 depth c cs _ _ _ ih =>
    obtain ⟨⟨k, r⟩, hr, hk⟩ := Option.map_eq_some_iff.1 h
    obtain ⟨-, rfl⟩ := Prod.mk.inj hk
    exact Nat.le_succ_of_le (ih hr)

theorem length_takeKey (cs : List Char) : (takeKey cs).2.length ≤ cs.length := by
  unfold takeKey
  split
  · next cs =>
    split
    · next h => exact Nat.le_succ_of_le (length_of_untilClosed h)
    · exact Nat.zero_le _
  · exact Nat.le_refl _

theorem length_takeLayout (layout : Layout) (cs : List Char) :
    (takeLayout layout cs).2.length ≤ cs.length := by
  fun_induction takeLayout layout cs with
  | case1 _ cs ih | case2 _ cs ih | case3 _ cs ih | case4 _ cs ih | case5 _ cs ih =>
    exact Nat.le_succ_of_le ih
  | case6 => exact Nat.le_refl _

theorem length_takeSize (cs : List Char) : (takeSize cs).2.length ≤ cs.length := by
  unfold takeSize
  split
  · exact Nat.le_succ _
  · split
    · exact Nat.le_refl _
    · exact (List.dropWhile_sublist _).length_le

theorem length_takePrecision (cs : List Char) : (takePrecision cs).2.length ≤ cs.length := by
  unfold takePrecision
  split
  · next cs =>
    have h := length_takeSize cs
    split <;> next heq => rw [heq] at h; exact Nat.le_succ_of_le h
  · exact Nat.le_refl _

theorem length_skipLength (cs : List Char) : (skipLength cs).length ≤ cs.length := by
  unfold skipLength
  split
  · split
    · exact Nat.le_succ _
    · exact Nat.le_refl _
  · exact Nat.le_refl _

theorem length_takeLetter (cs : List Char) : (takeLetter cs).2.length ≤ cs.length := by
  cases cs with
  | nil => exact Nat.le_refl _
  | cons c cs => exact Nat.le_succ _

theorem length_takePlace (cs : List Char) : (takePlace cs).2.length ≤ cs.length :=
  calc
    _ ≤ _ := length_takeLetter _
    _ ≤ _ := length_skipLength _
    _ ≤ _ := length_takePrecision _
    _ ≤ _ := length_takeSize _
    _ ≤ _ := length_takeLayout _ _
    _ ≤ _ := length_takeKey _

/-- The pieces of the end of a text that has `size` characters in all. -/
def piecesFrom (size : Nat) : List Char → List Piece
  | [] => []
  | '%' :: '%' :: cs => .char '%' :: piecesFrom size cs
  | '%' :: cs =>
    .place (takePlace cs).1 (size - ((takePlace cs).2.length + 1)) ::
      piecesFrom size (takePlace cs).2
  | c :: cs => .char c :: piecesFrom size cs
  termination_by cs => cs.length
  decreasing_by
    · exact Nat.lt_succ_of_lt (Nat.lt_succ_self _)
    · exact Nat.lt_succ_of_le (length_takePlace _)
    · exact Nat.lt_succ_self _

/-- A text as characters and places. -/
def pieces (cs : List Char) : List Piece := piecesFrom cs.length cs

end Mooring.Text
