/-! Cuts at one character. `cutFirst` and `cutLast` answer what stands before and after the first or
last occurrence, and nothing where there is none: the parts and the character between them are
always the whole text. -/

namespace Mooring.Text

/-- What stands before and after the first `mark`. -/
def cutFirst (mark : Char) : List Char → Option (List Char × List Char)
  | [] => none
  | c :: cs =>
    if c = mark then some ([], cs)
    else (cutFirst mark cs).map (fun (before, after) => (c :: before, after))

/-- What stands before and after the last `mark`. -/
def cutLast (mark : Char) (cs : List Char) : Option (List Char × List Char) :=
  (cutFirst mark cs.reverse).map (fun (after, before) => (before.reverse, after.reverse))

/-- Everything before the first `mark`. -/
def before (mark : Char) (cs : List Char) : List Char := cs.takeWhile (· ≠ mark)

/-- Everything after the last `mark`, or the whole text. -/
def afterLast (mark : Char) (cs : List Char) : List Char :=
  match cutLast mark cs with
  | some (_, after) => after
  | none => cs

/-- Whether `part` occurs in a text. -/
def occursIn (part : List Char) : List Char → Bool
  | [] => part.isEmpty
  | c :: cs => part.isPrefixOf (c :: cs) || occursIn part cs

/-- Puts `between` between the pieces. -/
def joinWith (between : List Char) : List (List Char) → List Char
  | [] => []
  | [piece] => piece
  | piece :: pieces => piece ++ between ++ joinWith between pieces

theorem cutFirst_eq_some {mark : Char} {cs l r : List Char} (h : cutFirst mark cs = some (l, r)) :
    cs = l ++ mark :: r ∧ mark ∉ l := by
  induction cs generalizing l with
  | nil => simp [cutFirst] at h
  | cons c cs ih =>
    simp only [cutFirst] at h
    split at h
    · next hc => obtain ⟨rfl, rfl⟩ : [] = l ∧ cs = r := by simpa using h
                 simp [hc]
    · next hc =>
      simp only [Option.map_eq_some_iff, Prod.mk.injEq, Prod.exists] at h
      obtain ⟨l', r', h', rfl, rfl⟩ := h
      obtain ⟨rfl, hm⟩ := ih h'
      exact ⟨rfl, by simpa using ⟨fun e => hc e.symm, hm⟩⟩

theorem cutFirst_eq_none_iff {mark : Char} {cs : List Char} :
    cutFirst mark cs = none ↔ mark ∉ cs := by
  induction cs with
  | nil => simp [cutFirst]
  | cons c cs ih =>
    simp only [cutFirst]
    split
    · next hc => simp [hc]
    · next hc => simp [ih, show ¬ mark = c from fun e => hc e.symm]

/-- A text is cut in front of whatever follows its first mark. -/
theorem cutFirst_append {mark : Char} {l : List Char} (h : mark ∉ l) (r : List Char) :
    cutFirst mark (l ++ mark :: r) = some (l, r) := by
  induction l with
  | nil => simp [cutFirst]
  | cons c l ih =>
    simp only [List.mem_cons, not_or] at h
    simp [cutFirst, show ¬ c = mark from fun e => h.1 e.symm, ih h.2]

theorem before_of_cutFirst {mark : Char} {cs l r : List Char} (h : cutFirst mark cs = some (l, r)) :
    before mark cs = l := by
  obtain ⟨rfl, hl⟩ := cutFirst_eq_some h
  have hall : ∀ c ∈ l, decide (c ≠ mark) = true := fun c hc =>
    decide_eq_true (fun e => hl (e ▸ hc))
  rw [before, List.takeWhile_append_of_pos hall, List.takeWhile_cons_of_neg (by simp),
    List.append_nil]

end Mooring.Text
