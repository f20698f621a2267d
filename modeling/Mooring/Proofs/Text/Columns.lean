import Mooring.Proofs.Text.Numeral
import Mooring.Proofs.Text.Pieces

/-! Rows of words, printed in columns and cut again. Whatever the widths of the columns are, the
words of a row are found as they were. -/

namespace Mooring.Text

/-- A text without blanks that is not empty. -/
structure Word where
  chars : List Char
  nonempty : chars ≠ []
  unblank : ∀ c ∈ chars, isBlank c = false

/-- Digits that are read as a number. -/
structure Digits where
  chars : List Char
  nonempty : chars ≠ []
  digits : ∀ c ∈ chars, isDigit c = true
  short : chars.length ≤ decimalLimit

namespace Digits

variable (ds : Digits)

def value : Nat := digitsValue ds.chars

theorem readInt_chars : readInt .ten ds.chars = .ok ds.value :=
  readInt_digits ds.nonempty ds.digits ds.short

theorem unblank : ∀ c ∈ ds.chars, isBlank c = false :=
  fun c hc => not_isBlank_of_isDigit (ds.digits c hc)

/-- Digits as a word. -/
def word : Word := ⟨ds.chars, ds.nonempty, ds.unblank⟩

/-- Digits with a percent sign behind them, as a word. -/
def percent : Word where
  chars := ds.chars ++ ['%']
  nonempty := List.append_ne_nil_of_right_ne_nil _ (List.cons_ne_nil _ _)
  unblank := List.forall_mem_append.mpr ⟨ds.unblank, List.forall_mem_singleton.mpr rfl⟩

theorem dropWhile_chars : ds.chars.reverse.dropWhile (· == '%') = ds.chars.reverse := by
  cases hr : ds.chars.reverse with
  | nil => rfl
  | cons c cs =>
    have hc : c ∈ ds.chars := List.mem_reverse.mp (hr ▸ List.mem_cons_self ..)
    have hne : c ≠ '%' := ne_of_isDigit rfl (ds.digits c hc)
    rw [List.dropWhile_cons_of_neg (by simpa using hne)]

theorem dropWhile_percent :
    (ds.percent.chars.reverse.dropWhile (· == '%')).reverse = ds.chars := by
  have hchars : ds.percent.chars.reverse = '%' :: ds.chars.reverse := by simp [percent]
  rw [hchars, List.dropWhile_cons_of_pos rfl, ds.dropWhile_chars, List.reverse_reverse]

theorem readInt_percent :
    readInt .ten (ds.percent.chars.reverse.dropWhile (· == '%')).reverse = .ok ds.value := by
  rw [ds.dropWhile_percent, ds.readInt_chars]

end Digits

theorem not_isLineBreak_of_not_isBlank {c : Char} (h : isBlank c = false) :
    isLineBreak c = false := by
  refine Bool.eq_false_iff.mpr (fun hbreak => Bool.eq_false_iff.mp h ?_)
  simp only [isLineBreak, isBlank, Bool.or_eq_true, Bool.and_eq_true, decide_eq_true_eq,
    beq_iff_eq] at hbreak ⊢
  omega

theorem Word.unbroken (word : Word) : ∀ c ∈ word.chars, isLineBreak c = false :=
  fun c hc => not_isLineBreak_of_not_isBlank (word.unblank c hc)

/-- Blanks within a line, at least one. -/
structure Gap where
  chars : List Char
  nonempty : chars ≠ []
  blank : ∀ c ∈ chars, isBlank c = true
  unbroken : ∀ c ∈ chars, isLineBreak c = false

/-- Words with a gap in front of each but the first. -/
def columns (first : Word) : List (Gap × Word) → List Char
  | [] => first.chars
  | (gap, next) :: more => first.chars ++ (gap.chars ++ columns next more)

variable (first : Word) (more : List (Gap × Word))

/-- Columns are cut into their words, also where the row is filled up with blanks. -/
theorem fields_columns {filling : List Char} (h : ∀ c ∈ filling, isBlank c = true) :
    fields (columns first more ++ filling) = first.chars :: more.map (fun p => p.2.chars) := by
  induction more generalizing first with
  | nil => exact fields_word_blanks h first.nonempty first.unblank
  | cons p more ih =>
    rw [columns, List.append_assoc, List.append_assoc,
      fields_word_append p.1.blank first.nonempty first.unblank p.1.nonempty, ih, List.map_cons]

theorem columns_ne_nil : columns first more ≠ [] := by
  cases more with
  | nil => exact first.nonempty
  | cons p more => exact List.append_ne_nil_of_left_ne_nil first.nonempty _

theorem unbroken_columns : ∀ c ∈ columns first more, isLineBreak c = false := by
  induction more generalizing first with
  | nil => exact first.unbroken
  | cons p more ih =>
    rw [columns, List.forall_mem_append, List.forall_mem_append]
    exact ⟨first.unbroken, p.1.unbroken, ih p.2⟩

end Mooring.Text
