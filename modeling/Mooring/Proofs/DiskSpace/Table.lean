import Mooring.DiskSpace
import Mooring.Proofs.Text.Columns

/-! Tables of file systems, printed and read. A table is a heading and below it a row for each file
system, with runs of spaces between the fields of a row. Whatever the widths of its columns are, the
usage of a mount point is read from the first row of it. -/

namespace Mooring

namespace Text

/-- Words with a run of spaces in front of each but the first. -/
def spaced (first : Word) : List (Nat × Word) → List Char
  | [] => first.chars
  | (gap, next) :: more => first.chars ++ (List.replicate (gap + 1) ' ' ++ spaced next more)

/-- A gap of spaces, with so many beyond the first. -/
def Gap.spaces (n : Nat) : Gap where
  chars := List.replicate (n + 1) ' '
  nonempty := List.cons_ne_nil _ _
  blank := fun _ hc => List.eq_of_mem_replicate hc ▸ rfl
  unbroken := fun _ hc => List.eq_of_mem_replicate hc ▸ rfl

theorem spaced_eq_columns (first : Word) (more : List (Nat × Word)) :
    spaced first more = columns first (more.map (fun p => (Gap.spaces p.1, p.2))) := by
  induction more generalizing first with
  | nil => rfl
  | cons p more ih => rw [spaced, ih, List.map_cons, columns, Gap.spaces]

theorem fields_spaced (first : Word) (more : List (Nat × Word)) :
    fields (spaced first more) = first.chars :: more.map (fun p => p.2.chars) := by
  have h := fields_columns first (more.map (fun p => (Gap.spaces p.1, p.2)))
    (List.forall_mem_nil _)
  rwa [List.append_nil, ← spaced_eq_columns, List.map_map] at h

theorem line_spaced (first : Word) (more : List (Nat × Word)) :
    spaced first more ≠ [] ∧ ∀ c ∈ spaced first more, isLineBreak c = false := by
  rw [spaced_eq_columns]
  exact ⟨columns_ne_nil _ _, unbroken_columns _ _⟩

end Text

namespace DiskUsage

open Text Mooring.Action

/-- A row of a table, with the number of spaces beyond the first in front of each later field. -/
structure Row where
  name : Word
  blocks : Word
  used : Word
  /-- Kibibytes that are available. -/
  available : Digits
  /-- The share in use, of a hundred. -/
  capacity : Digits
  mountPoint : Word
  gaps : Fin 5 → Nat

namespace Row

variable (row : Row)

def text : List Char :=
  spaced row.name [(row.gaps 0, row.blocks), (row.gaps 1, row.used),
    (row.gaps 2, row.available.word), (row.gaps 3, row.capacity.percent),
    (row.gaps 4, row.mountPoint)]

/-- The fields of a row as they are read. -/
def words : List (List Char) :=
  [row.name.chars, row.blocks.chars, row.used.chars, row.available.chars,
    row.capacity.percent.chars, row.mountPoint.chars]

/-- What a row says, in whole mebibytes. -/
def usage : DiskUsage where
  availableMb := some (row.available.value / 1024 : Nat)
  usedPercent := some row.capacity.value

theorem rowFields?_text (mountPoint : List Char) :
    rowFields? mountPoint row.text =
      if row.mountPoint.chars = mountPoint then some row.words else none := by
  have hfields : fields row.text = row.words := fields_spaced ..
  simp [rowFields?, hfields, words]

theorem ofRow_words : ofRow row.words = .ok row.usage := by
  have hwhole : (row.available.value : Int).fdiv 1024 = (row.available.value / 1024 : Nat) :=
    (Int.ofNat_fdiv _ 1024).symm
  simp only [ofRow, words, List.getD_cons_succ, List.getD_cons_zero, row.capacity.readInt_percent,
    row.available.readInt_chars, usage, ← hwhole]
  rfl

end Row

/-- A heading of one line with rows below it. The last line may be ended as the others are. -/
structure Table where
  heading : List Char
  unbroken : ∀ c ∈ heading, isLineBreak c = false
  rows : List Row
  closed : Bool

namespace Table

variable {σ : Type} (table : Table) (mountPoint : List Char)

def ending : List Char := if table.closed then ['\n'] else []

def text : List Char :=
  joinWith ['\n'] (table.heading :: table.rows.map Row.text) ++ table.ending

/-- The first row of a mount point. -/
def row? : Option Row :=
  table.rows.find? (fun row => decide (row.mountPoint.chars = mountPoint))

theorem ending_cases : table.ending = [] ∨ table.ending = ['\n'] := closing_cases table.closed

theorem lines_text : (lines table.text).drop 1 = table.rows.map Row.text :=
  linesAt_joinReturns_headed rfl rfl table.unbroken table.ending_cases
    (List.forall_mem_map.mpr (fun _ _ => line_spaced _ _))

theorem findRow?_rows (rows : List Row) :
    findRow? mountPoint (rows.map Row.text) =
      (rows.find? (fun row => decide (row.mountPoint.chars = mountPoint))).map
        (fun row => (row.text, row.words)) := by
  induction rows with
  | nil => rfl
  | cons row rows ih =>
    rw [List.map_cons, findRow?, row.rowFields?_text]
    by_cases h : row.mountPoint.chars = mountPoint
    · simp [h]
    · simp [h, ih]

/-- The usage of a mount point is what the first row of it says; neither the heading nor any other
row has a part in it. -/
theorem ofTable_text :
    (ofTable table.text mountPoint : Action σ DiskUsage) =
      pure ((table.row? mountPoint).elim unknown Row.usage) := by
  rw [ofTable, table.lines_text, findRow?_rows, ← row?]
  cases table.row? mountPoint with
  | none => rfl
  | some row =>
    simp only [Option.map_some, row.ofRow_words]
    rfl

end Table

end DiskUsage

end Mooring
