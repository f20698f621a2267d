import Mooring.Text.Blank

/-! Lines of a text. A line ends at a line break, and a break at the very end of the text
opens no further line. A carriage return followed by a line feed is one break. -/

namespace Mooring.Text

/-- Reads every carriage return with a line feed behind it as a line feed alone. -/
def joinReturns : List Char → List Char
  | '\r' :: '\n' :: cs => '\n' :: joinReturns cs
  | c :: cs => c :: joinReturns cs
  | [] => []

/-- The lines that end at the given breaks. -/
def linesAt (isBreak : Char → Bool) : List Char → List (List Char)
  | [] => []
  | c :: cs =>
    if isBreak c then [] :: linesAt isBreak cs
    else match linesAt isBreak cs with
      | [] => [[c]]
      | line :: lines => (c :: line) :: lines

/-- Every character that Unicode counts as the end of a line, with the ASCII separators. -/
def isLineBreak (c : Char) : Bool :=
  let n := c.toNat
  (10 ≤ n && n ≤ 13) || (28 ≤ n && n ≤ 30) || n == 0x85 || n == 0x2028 || n == 0x2029

/-- The line ends of a text file: line feed and carriage return. -/
def isNewline (c : Char) : Bool := c == '\n' || c == '\r'

/-- The lines of a text in memory. -/
def lines (cs : List Char) : List (List Char) := linesAt isLineBreak (joinReturns cs)

/-- The lines of a text file. -/
def fileLines (cs : List Char) : List (List Char) := linesAt isNewline (joinReturns cs)

/-- No line holds a break. -/
theorem not_isBreak_of_mem_linesAt {isBreak : Char → Bool} {cs line : List Char}
    (h : line ∈ linesAt isBreak cs) : ∀ c ∈ line, isBreak c = false := by
  induction cs generalizing line with
  | nil => simp [linesAt] at h
  | cons c cs ih =>
    simp only [linesAt] at h
    split at h
    · rcases List.mem_cons.1 h with rfl | h
      · simp
      · exact ih h
    · next hc =>
      have hc : isBreak c = false := by simpa using hc
      split at h
      · rcases List.mem_singleton.1 h with rfl
        simpa using hc
      · next l ls hl =>
        rcases List.mem_cons.1 h with rfl | h
        · intro x hx
          rcases List.mem_cons.1 hx with rfl | hx
          · exact hc
          · exact ih (by simp [hl]) x hx
        · exact ih (by simp [hl, h])

end Mooring.Text
