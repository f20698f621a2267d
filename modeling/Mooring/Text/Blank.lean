/-! Blanks of a text and the cuts made at them. `fields` cuts a line at every run of
blanks; the fields never hold a blank and are never empty. `trim` takes the blanks
off both ends. -/

namespace Mooring.Text

/-- The characters that separate words: the Unicode spaces and the ASCII and Latin controls
that end a line or a unit. -/
def isBlank (c : Char) : Bool :=
  let n := c.toNat
  (9 ≤ n && n ≤ 13) || (28 ≤ n && n ≤ 32) || n == 0x85 || n == 0xa0 || n == 0x1680 ||
    (0x2000 ≤ n && n ≤ 0x200a) || n == 0x2028 || n == 0x2029 || n == 0x202f || n == 0x205f ||
    n == 0x3000

/-- The blanks of ASCII alone, for text that is still bytes. -/
def isByteBlank (b : UInt8) : Bool :=
  (9 ≤ b && b ≤ 13) || b == 32

def trimLeft (cs : List Char) : List Char := cs.dropWhile isBlank

def trimRight (cs : List Char) : List Char := (cs.reverse.dropWhile isBlank).reverse

def trim (cs : List Char) : List Char := trimRight (trimLeft cs)

/-- The bytes without the ASCII blanks at their ends. -/
def trimBytes (bs : List UInt8) : List UInt8 :=
  ((bs.dropWhile isByteBlank).reverse.dropWhile isByteBlank).reverse

/-- Cuts at every separator and keeps the empty pieces: `n` separators make `n + 1` pieces. -/
def splitAt (isSep : Char → Bool) : List Char → List (List Char)
  | [] => [[]]
  | c :: cs =>
    if isSep c then [] :: splitAt isSep cs
    else match splitAt isSep cs with
      | [] => [[c]]
      | piece :: pieces => (c :: piece) :: pieces

/-- The maximal runs of characters that are not blank. -/
def fields (cs : List Char) : List (List Char) :=
  (splitAt isBlank cs).filter (fun piece => !piece.isEmpty)

theorem splitAt_ne_nil (isSep : Char → Bool) (cs : List Char) : splitAt isSep cs ≠ [] := by
  cases cs with
  | nil => simp [splitAt]
  | cons c cs =>
    simp only [splitAt]
    split
    · simp
    · split <;> simp

end Mooring.Text
