import Mooring.Proofs.DiskSpace.Table
import Mooring.Proofs.Plain

/-! File systems whose names are of several words. The mount point of a row is found at its end, but
its numbers are counted from its front, so each further word of a name moves what is read by one
column to the left: first the used space is taken for the available one, then all the blocks there
are, and at last words of the name itself. -/

namespace Mooring.DiskUsage

open Text Mooring.Action

variable {σ : Type} {w : World}

/-- A row of a table, with any gaps between its fields and any number of words in its name. -/
structure NamedRow where
  name : Word
  /-- The further words of the name. -/
  more : List (Gap × Word)
  blocks : Digits
  used : Digits
  /-- Kibibytes that are available. -/
  available : Digits
  /-- The share in use, of a hundred. -/
  capacity : Digits
  mountPoint : Word
  /-- The gap in front of each field behind the name, counted from zero. -/
  gaps : Nat → Gap

/-- A text without the percent signs at its end. -/
def unmarked (cs : List Char) : List Char := (cs.reverse.dropWhile (· == '%')).reverse

/-- What two words say in the places of the available space and of the share in use; nothing where
one of them is no number. -/
def said (space share : Word) : DiskUsage :=
  match readInt .ten space.chars, readInt .ten (unmarked share.chars) with
  | .ok n, .ok m => ⟨some (n.fdiv 1024), some m⟩
  | _, _ => unknown

/-- A line that is taken for a row of a mount point. -/
def IsRowOf (mountPoint line : List Char) : Prop :=
  6 ≤ (fields line).length ∧ (fields line).getLast? = some mountPoint

instance (mountPoint line : List Char) : Decidable (IsRowOf mountPoint line) :=
  inferInstanceAs (Decidable (_ ∧ _))

theorem rowFields?_of_isRowOf {mountPoint line : List Char} (h : IsRowOf mountPoint line) :
    rowFields? mountPoint line = some (fields line) := by
  rw [rowFields?, if_neg (Nat.not_lt.mpr h.1), if_pos h.2]

theorem rowFields?_eq_none {mountPoint line : List Char} (h : ¬ IsRowOf mountPoint line) :
    rowFields? mountPoint line = none := by
  simp only [rowFields?]
  split
  · rfl
  · next hlength => exact if_neg (fun hlast => h ⟨Nat.not_lt.mp hlength, hlast⟩)

/-- The row of a mount point that is read is the first one. -/
theorem findRow?_append {mountPoint line : List Char} {before after : List (List Char)}
    (hbefore : ∀ l ∈ before, ¬ IsRowOf mountPoint l) (h : IsRowOf mountPoint line) :
    findRow? mountPoint (before ++ line :: after) = some (line, fields line) := by
  induction before with
  | nil => rw [List.nil_append, findRow?, rowFields?_of_isRowOf h]
  | cons l before ih =>
    rw [List.forall_mem_cons] at hbefore
    rw [List.cons_append, findRow?, rowFields?_eq_none hbefore.1]
    exact ih hbefore.2

/-- Of a row the fourth word and the fifth are read. -/
theorem ofTable_of_row {output mountPoint line : List Char} {before after : List (List Char)}
    (hlines : (lines output).drop 1 = before ++ line :: after)
    (hbefore : ∀ l ∈ before, ¬ IsRowOf mountPoint l) (h : IsRowOf mountPoint line)
    {a b c : List Char} {space share : Word} {rest : List (List Char)}
    (hfields : fields line = a :: b :: c :: space.chars :: share.chars :: rest)
    (s : σ) (j : Journal) :
    ∃ j', ofTable output mountPoint w s j = (.ok (said space share), s, j') := by
  have hrow : ofRow (fields line) = (do
      let available ← readInt .ten space.chars
      let used ← readInt .ten (unmarked share.chars)
      return ⟨some (available.fdiv 1024), some used⟩) := by
    rw [hfields]
    rfl
  rw [ofTable, hlines, findRow?_append hbefore h]
  simp only [hrow, said]
  cases readInt .ten space.chars with
  | error fault => exact ⟨_, rfl⟩
  | ok n =>
    cases readInt .ten (unmarked share.chars) with
    | error fault => exact ⟨_, rfl⟩
    | ok m => exact ⟨_, rfl⟩

theorem readInt_unmarked (ds : Digits) : readInt .ten (unmarked ds.word.chars) = .ok ds.value := by
  rw [unmarked, Digits.word, ds.dropWhile_chars, List.reverse_reverse, ds.readInt_chars]

theorem said_digits (space : Digits) {share : Word} {m : Nat}
    (hshare : readInt .ten (unmarked share.chars) = .ok m) :
    said space.word share = ⟨some (space.value / 1024 : Nat), some m⟩ := by
  have hspace : readInt .ten space.word.chars = .ok space.value := space.readInt_chars
  have hwhole : (space.value : Int).fdiv 1024 = (space.value / 1024 : Nat) :=
    (Int.ofNat_fdiv _ 1024).symm
  simp only [said, hspace, hshare, hwhole]

theorem said_eq_iff {space share : Word} {n m : Int} :
    said space share = ⟨some n, some m⟩ ↔
      (∃ k, readInt .ten space.chars = .ok k ∧ k.fdiv 1024 = n) ∧
        readInt .ten (unmarked share.chars) = .ok m := by
  rw [said]
  cases readInt .ten space.chars with
  | error fault => simp [unknown]
  | ok k => cases readInt .ten (unmarked share.chars) <;> simp [unknown]

namespace NamedRow

variable (row : NamedRow)

def text : List Char :=
  columns row.name (row.more ++ [(row.gaps 0, row.blocks.word), (row.gaps 1, row.used.word),
    (row.gaps 2, row.available.word), (row.gaps 3, row.capacity.percent),
    (row.gaps 4, row.mountPoint)])

/-- What a row says, in whole mebibytes. -/
def usage : DiskUsage where
  availableMb := some (row.available.value / 1024 : Nat)
  usedPercent := some row.capacity.value

/-- The first of some words of the name, or else the blocks, which stand behind it. -/
def next (rest : List (Gap × Word)) : Word := (rest.head?.map Prod.snd).getD row.blocks.word

/-- What is read from a row. -/
def reading : DiskUsage :=
  match row.more with
  | [] => row.usage
  | [_] => ⟨some (row.used.value / 1024 : Nat), some row.available.value⟩
  | [_, _] => ⟨some (row.blocks.value / 1024 : Nat), some row.used.value⟩
  | _ :: _ :: (_, fourth) :: rest => said fourth (row.next rest)

/-- A row from which the right numbers are read: its name is one word, or else the words that are
read happen to say the same as those they are taken for. -/
inductive ReadsRight : Prop
  | oneWord (h : row.more = [])
  | twoWords {p : Gap × Word} (h : row.more = [p])
    (hspace : row.used.value / 1024 = row.available.value / 1024)
    (hshare : row.available.value = row.capacity.value)
  | threeWords {p q : Gap × Word} (h : row.more = [p, q])
    (hspace : row.blocks.value / 1024 = row.available.value / 1024)
    (hshare : row.used.value = row.capacity.value)
  | moreWords {p q : Gap × Word} {fourth : Word} {gap : Gap} {rest : List (Gap × Word)}
    (h : row.more = p :: q :: (gap, fourth) :: rest) {n : Int}
    (hfourth : readInt .ten fourth.chars = .ok n)
    (hspace : n.fdiv 1024 = (row.available.value / 1024 : Nat))
    (hshare : readInt .ten (unmarked (row.next rest).chars) = .ok row.capacity.value)

theorem fields_text :
    fields row.text = row.name.chars :: (row.more.map (fun p => p.2.chars) ++
      [row.blocks.word.chars, row.used.word.chars, row.available.word.chars,
        row.capacity.percent.chars, row.mountPoint.chars]) := by
  have h := fields_columns row.name (row.more ++ [(row.gaps 0, row.blocks.word),
    (row.gaps 1, row.used.word), (row.gaps 2, row.available.word),
    (row.gaps 3, row.capacity.percent), (row.gaps 4, row.mountPoint)]) (List.forall_mem_nil _)
  rw [List.append_nil, List.map_append] at h
  exact h

theorem isRowOf_text : IsRowOf row.mountPoint.chars row.text := by
  refine ⟨?_, ?_⟩
  · rw [row.fields_text]
    simp
  · rw [row.fields_text]
    simp [List.getLast?_cons, List.getLast?_append]

/-- The words that are read, behind three others. -/
theorem exists_words :
    ∃ a b c rest space share, fields row.text = a :: b :: c :: space.chars :: share.chars :: rest ∧
      said space share = row.reading := by
  rw [row.fields_text]
  unfold reading
  split
  · next h =>
    rw [h]
    exact ⟨_, _, _, _, row.available.word, row.capacity.percent, rfl,
      said_digits _ row.capacity.readInt_percent⟩
  · next h =>
    rw [h]
    exact ⟨_, _, _, _, row.used.word, row.available.word, rfl, said_digits _ (readInt_unmarked _)⟩
  · next h =>
    rw [h]
    exact ⟨_, _, _, _, row.blocks.word, row.used.word, rfl, said_digits _ (readInt_unmarked _)⟩
  · next p q gap fourth rest h =>
    rw [h]
    cases rest with
    | nil => exact ⟨_, _, _, _, fourth, row.blocks.word, rfl, rfl⟩
    | cons fifth rest => exact ⟨_, _, _, _, fourth, fifth.2, rfl, rfl⟩

theorem reading_eq_usage_iff : row.reading = row.usage ↔ row.ReadsRight := by
  constructor
  · intro heq
    unfold reading at heq
    split at heq
    · next h => exact .oneWord h
    · next h =>
      simp only [usage, DiskUsage.mk.injEq, Option.some.injEq, Int.natCast_inj] at heq
      exact .twoWords h heq.1 heq.2
    · next h =>
      simp only [usage, DiskUsage.mk.injEq, Option.some.injEq, Int.natCast_inj] at heq
      exact .threeWords h heq.1 heq.2
    · next h =>
      obtain ⟨⟨n, hfourth, hspace⟩, hshare⟩ := said_eq_iff.mp heq
      exact .moreWords h hfourth hspace hshare
  · intro hright
    unfold reading
    cases hright with
    | oneWord h => rw [h]
    | twoWords h hspace hshare => rw [h, usage, hspace, hshare]
    | threeWords h hspace hshare => rw [h, usage, hspace, hshare]
    | moreWords h hfourth hspace hshare =>
      rw [h]
      exact said_eq_iff.mpr ⟨⟨_, hfourth, hspace⟩, hshare⟩

end NamedRow

variable {output : List Char} {before after : List (List Char)} (row : NamedRow)

/-- The first row of a mount point is always read, and its numbers are read right exactly if its
name is one word or the columns that are read instead happen to agree with the right ones. Where the
name is of two words, the used space is taken for the available one. -/
theorem reading_of_row (hlines : (lines output).drop 1 = before ++ row.text :: after)
    (hbefore : ∀ line ∈ before, ¬ IsRowOf row.mountPoint.chars line) (s : σ) (j : Journal) :
    ∃ j', ofTable output row.mountPoint.chars w s j = (.ok row.reading, s, j') ∧
      (row.reading = row.usage ↔ row.ReadsRight) := by
  obtain ⟨a, b, c, rest, space, share, hfields, hreading⟩ := row.exists_words
  obtain ⟨j', hrun⟩ := ofTable_of_row hlines hbefore row.isRowOf_text hfields s j
  exact ⟨j', by rw [hrun, hreading], row.reading_eq_usage_iff⟩

/-- The root on a share whose name has a space in it; two thousand megabytes are free. -/
def shareRow : NamedRow where
  name := ⟨"//nas/my".toList, by decide, by simp [isBlank]⟩
  more := [(.spaces 0, ⟨"share".toList, by decide, by simp [isBlank]⟩)]
  blocks := ⟨"72279492".toList, by decide, List.all_eq_true.mp rfl, by decide⟩
  used := ⟨"70231492".toList, by decide, List.all_eq_true.mp rfl, by decide⟩
  available := ⟨"2048000".toList, by decide, List.all_eq_true.mp rfl, by decide⟩
  capacity := ⟨"98".toList, by decide, List.all_eq_true.mp rfl, by decide⟩
  mountPoint := ⟨['/'], List.cons_ne_nil _ _, List.forall_mem_singleton.mpr rfl⟩
  gaps := fun _ => .spaces 0

/-- A table with the share below a file system that is not the root. -/
def shareTable : List Char :=
  ("Filesystem 1024-blocks Used Available Capacity Mounted on\n" ++
    "tmpfs 65536 0 65536 0% /dev\n" ++
    "//nas/my share 72279492 70231492 2048000 98% /\n").toList

def tmpfsLine : List Char := "tmpfs 65536 0 65536 0% /dev".toList

theorem lines_shareTable : (lines shareTable).drop 1 = [tmpfsLine] ++ shareRow.text :: [] := by
  decide +kernel

theorem isRowOf_tmpfsLine : ∀ line ∈ [tmpfsLine], ¬ IsRowOf shareRow.mountPoint.chars line := by
  decide +kernel

/-- The used space is taken for the available one, and that for the share. -/
theorem reading_share :
    (lines shareTable).drop 1 = [tmpfsLine] ++ shareRow.text :: [] ∧
      (∀ line ∈ [tmpfsLine], ¬ IsRowOf shareRow.mountPoint.chars line) ∧
      ∃ j', ofTable shareTable ['/'] (World.plain (fun _ => none)) () {} =
        (.ok ⟨some 68585, some 2048000⟩, (), j') := by
  refine ⟨lines_shareTable, isRowOf_tmpfsLine, ?_⟩
  obtain ⟨j', hrun, -⟩ := reading_of_row (w := World.plain (fun _ => none)) shareRow
    lines_shareTable isRowOf_tmpfsLine () {}
  have hreading : shareRow.reading = ⟨some 68585, some 2048000⟩ := by decide +kernel
  exact ⟨j', by rw [← hreading, ← hrun]; rfl⟩

/-- What the row of the share says is not found. -/
theorem share_misread :
    ¬ ∃ j', ofTable shareTable ['/'] (World.plain (fun _ => none)) () {} =
      (.ok shareRow.usage, (), j') := by
  rintro ⟨j', husage⟩
  obtain ⟨a, b, c, rest, space, share, hfields, hreading⟩ := shareRow.exists_words
  obtain ⟨j'', hrun⟩ := ofTable_of_row (w := World.plain (fun _ => none)) lines_shareTable
    isRowOf_tmpfsLine shareRow.isRowOf_text hfields () {}
  have hresults : Except.ok (said space share) = Except.ok shareRow.usage :=
    congrArg Prod.fst (hrun.symm.trans husage)
  rw [hreading] at hresults
  exact absurd (Except.ok.inj hresults) (by decide +kernel)

end Mooring.DiskUsage
