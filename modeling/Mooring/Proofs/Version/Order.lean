import Mooring.Proofs.Run
import Mooring.Proofs.Text.Numeral
import Mooring.Proofs.Text.Pieces
import Mooring.Proofs.Version.Sequence

/-! The order of version texts. Of a text only the digits in front of each part count; as long as
none of them are too many, the text is read, and texts are ordered as the sequences of their
numbers. -/

namespace Mooring.Version

open Text

/-! ### Parts -/

/-- The digits in front of each part between dots. -/
def openings (cs : List Char) : List (List Char) :=
  (splitAt (· == '.') cs).map (·.takeWhile isDigit)

theorem openings_append_dot (l r : List Char) :
    openings (l ++ '.' :: r) = openings l ++ openings r := by
  simp [openings, splitAt_append_separator]

/-- Digits that follow anything but a dot are in front of no part. -/
theorem openings_append_other {c : Char} (hdigit : isDigit c = false) (hdot : c ≠ '.')
    (l r : List Char) : openings (l ++ c :: r) = openings l ++ (openings r).tail := by
  have hmark : (fun x => x == '.') c = false := by simpa using hdot
  obtain ⟨pieces, last, next, more, hl, hr, hlr⟩ := exists_splitAt_append (· == '.') hmark l r
  have hlast : (last ++ c :: next).takeWhile isDigit = last.takeWhile isDigit := by
    -- even where the last part is all digits, they end at the mark
    rw [List.takeWhile_append, List.takeWhile_cons_of_neg (by simp [hdigit])]
    split
    · next hall => rw [List.append_nil, (List.takeWhile_prefix _).eq_of_length hall]
    · rfl
  simp [openings, hl, hr, hlr, hlast]

theorem openings_trimRight (cs : List Char) : openings (trimRight cs) = openings cs := by
  induction cs using List.reverseRecOn with
  | nil => rfl
  | append_singleton cs c ih =>
    rw [trimRight, ← List.rdropWhile] at *
    by_cases hc : isBlank c = true
    · have hdot : c ≠ '.' := by
        rintro rfl
        cases hc
      rw [List.rdropWhile_concat_pos _ _ _ hc, ih,
        openings_append_other (not_isDigit_of_isBlank hc) hdot]
      exact (List.append_nil _).symm
    · rw [List.rdropWhile_concat_neg _ _ _ hc]

theorem trimLeft_append {c : Char} (hc : isBlank c = false) (l r : List Char) :
    trimLeft (l ++ c :: r) = trimLeft l ++ c :: r := by
  rw [trimLeft, trimLeft, List.dropWhile_append]
  split
  · next hl => simp_all
  · rfl

/-- The numbers of a text, one for each of its parts. -/
def numbers (text : String) : List Nat := (openings (trim text.toList)).map digitsValue

/-- A text of which no part begins with more digits than are converted. -/
def Readable (text : String) : Prop :=
  ∀ digits ∈ openings (trim text.toList), digits.length ≤ decimalLimit

instance (text : String) : Decidable (Readable text) :=
  inferInstanceAs (Decidable (∀ digits ∈ openings (trim text.toList), _))

def ofText (text : String) : Version := ⟨some text, numbers text⟩

theorem readPart_eq_ok_iff {piece : List Char} {n : Nat} :
    readPart piece = .ok n ↔ (piece.takeWhile isDigit).length ≤ decimalLimit ∧
      n = digitsValue (piece.takeWhile isDigit) := by
  simp only [readPart]
  split
  · next h => simp [Nat.not_le_of_lt h]
  · next h => simp [Nat.le_of_not_lt h, eq_comm]

theorem mapM_readPart_eq_ok_iff {pieces : List (List Char)} {ns : List Nat} :
    pieces.mapM readPart = .ok ns ↔
      (∀ digits ∈ pieces.map (·.takeWhile isDigit), digits.length ≤ decimalLimit) ∧
        ns = (pieces.map (·.takeWhile isDigit)).map digitsValue := by
  induction pieces generalizing ns with
  | nil => simp [pure, Except.pure, eq_comm]
  | cons piece pieces ih =>
    rw [List.mapM_cons]
    constructor
    · intro h
      obtain ⟨n, hn, h⟩ := Action.exists_of_bind_eq_ok h
      obtain ⟨ns, hns, h⟩ := Action.exists_of_bind_eq_ok h
      cases h
      obtain ⟨hlength, rfl⟩ := readPart_eq_ok_iff.mp hn
      obtain ⟨hlengths, rfl⟩ := ih.mp hns
      exact ⟨List.forall_mem_cons.mpr ⟨hlength, hlengths⟩, rfl⟩
    · rintro ⟨hlengths, rfl⟩
      obtain ⟨hlength, hlengths⟩ := List.forall_mem_cons.mp hlengths
      rw [readPart_eq_ok_iff.mpr ⟨hlength, rfl⟩, ih.mpr ⟨hlengths, rfl⟩]
      rfl

theorem read_eq_ok_iff {text : String} {v : Version} :
    read (some text) = .ok v ↔ Readable text ∧ v = ofText text := by
  constructor
  · intro h
    obtain ⟨ns, hns, h⟩ := Action.exists_of_bind_eq_ok h
    cases h
    obtain ⟨hlengths, rfl⟩ := mapM_readPart_eq_ok_iff.mp hns
    exact ⟨hlengths, rfl⟩
  · rintro ⟨h, rfl⟩
    have hns : (pieces text.toList).mapM readPart = .ok (numbers text) :=
      mapM_readPart_eq_ok_iff.mpr ⟨h, rfl⟩
    rw [read, Option.getD_some, hns]
    rfl

theorem isAtLeast_eq_ok_iff {a b : String} {r : Bool} :
    isAtLeast a b = .ok r ↔ Readable a ∧ Readable b ∧ (ofText a).atLeast (ofText b) = r := by
  constructor
  · intro h
    obtain ⟨v, hv, h⟩ := Action.exists_of_bind_eq_ok h
    obtain ⟨w, hw, h⟩ := Action.exists_of_bind_eq_ok h
    cases h
    obtain ⟨ha, rfl⟩ := read_eq_ok_iff.mp hv
    obtain ⟨hb, rfl⟩ := read_eq_ok_iff.mp hw
    exact ⟨ha, hb, rfl⟩
  · rintro ⟨ha, hb, rfl⟩
    rw [isAtLeast, read_eq_ok_iff.mpr ⟨ha, rfl⟩, read_eq_ok_iff.mpr ⟨hb, rfl⟩]
    rfl

theorem isAtLeast_eq_map {a : String} (ha : Readable a) (b : String) :
    isAtLeast a b = (read (some b)).map (ofText a).atLeast := by
  rw [isAtLeast, read_eq_ok_iff.mpr ⟨ha, rfl⟩]
  cases read (some b) <;> rfl

theorem isAtLeast_of_readable {a b : String} (ha : Readable a) (hb : Readable b) :
    isAtLeast a b = .ok ((ofText a).atLeast (ofText b)) :=
  isAtLeast_eq_ok_iff.mpr ⟨ha, hb, rfl⟩

theorem isAtLeast_eq_true_iff {a b : String} : isAtLeast a b = .ok true ↔
    Readable a ∧ Readable b ∧ sequence (numbers b) ≤ sequence (numbers a) := by
  rw [isAtLeast_eq_ok_iff, atLeast_iff]
  rfl

/-! ### Zeros behind a text -/

/-- A text with parts more, each of them a zero. -/
def withZeros (text : String) : Nat → String
  | 0 => text
  | n + 1 => withZeros text n ++ ".0"

theorem openings_withZeros (text : String) (n : Nat) :
    openings (trim (withZeros text n).toList) =
      openings (trim text.toList) ++ List.replicate n ['0'] := by
  induction n with
  | zero => rw [List.replicate_zero, List.append_nil, withZeros]
  | succ n ih =>
    have hzero : openings ['0'] = [['0']] := rfl
    rw [trim, openings_trimRight] at ih
    rw [withZeros, String.toList_append, show ".0".toList = ['.', '0'] from rfl, trim,
      openings_trimRight, trimLeft_append rfl, openings_append_dot, ih, hzero, List.append_assoc,
      List.replicate_succ']

theorem numbers_withZeros (text : String) (n : Nat) :
    numbers (withZeros text n) = numbers text ++ List.replicate n 0 := by
  rw [numbers, openings_withZeros, List.map_append, List.map_replicate]
  rfl

theorem readable_withZeros {text : String} (h : Readable text) (n : Nat) :
    Readable (withZeros text n) := by
  rw [Readable, openings_withZeros, List.forall_mem_append]
  refine ⟨h, fun digits hdigits => ?_⟩
  rw [List.eq_of_mem_replicate hdigits]
  decide

/-! ### The order of texts -/

/-- The number in front of a part of a text, zero where there is no such part. -/
def numberAt (text : String) (i : Nat) : Nat := (numbers text).getD i 0

/-- Texts that can be read are in a total preorder. Two of them are equal, or have the same key,
exactly if each is at least the other, and one is less exactly if it is not at least the other. A
text is at least another exactly if their numbers agree at every place, or it has the larger one
at the first place where they do not. Zeros behind a text make no difference to anything. -/
theorem order_of_readable {a b c : String} (ha : Readable a) (hb : Readable b) (hc : Readable c) :
    isAtLeast a a = .ok true ∧
    (isAtLeast a b = .ok true → isAtLeast b c = .ok true → isAtLeast a c = .ok true) ∧
    (isAtLeast a b = .ok true ∨ isAtLeast b a = .ok true) ∧
    (isAtLeast a b = .ok true ↔
      (∀ i, numberAt a i = numberAt b i) ∨
        ∃ i, (∀ k < i, numberAt a k = numberAt b k) ∧ numberAt b i < numberAt a i) ∧
    (∀ n, isAtLeast (withZeros a n) b = isAtLeast a b ∧
      isAtLeast b (withZeros a n) = isAtLeast b a) ∧
    ∃ v w, read (some a) = .ok v ∧ read (some b) = .ok w ∧
      (v.same w = true ↔ isAtLeast a b = .ok true ∧ isAtLeast b a = .ok true) ∧
      (v.same w = true ↔ v.key = w.key) ∧
      isAtLeast a b = .ok (!v.less w) ∧
      ∀ n, ∃ u, read (some (withZeros a n)) = .ok u ∧ u.key = v.key ∧
        ∀ x, u.compare x = v.compare x ∧ x.compare u = x.compare v := by
  have hle {a b : String} (ha : Readable a) (hb : Readable b) :
      isAtLeast a b = .ok true ↔ sequence (numbers b) ≤ sequence (numbers a) := by
    simp [isAtLeast_eq_true_iff, ha, hb]
  have hzeros (n : Nat) : sequence (numbers (withZeros a n)) = sequence (numbers a) := by
    rw [numbers_withZeros, sequence_append_zeros]
  have hcompare (n : Nat) (x : Version) :
      (ofText (withZeros a n)).compare x = (ofText a).compare x ∧
        x.compare (ofText (withZeros a n)) = x.compare (ofText a) :=
    ⟨compare_congr (hzeros n) rfl, compare_congr rfl (hzeros n)⟩
  refine ⟨?_, ?_, ?_, ?_, fun n => ?_, ofText a, ofText b, ?_, ?_, ?_, ?_, ?_, fun n => ?_⟩
  · exact (hle ha ha).mpr le_rfl
  · rw [hle ha hb, hle hb hc, hle ha hc]
    exact fun hab hbc => hbc.trans hab
  · rw [hle ha hb, hle hb ha]
    exact le_total _ _
  · exact (hle ha hb).trans sequence_le_iff
  · have hn := readable_withZeros ha n
    rw [isAtLeast_of_readable hn hb, isAtLeast_of_readable hb hn, isAtLeast_of_readable ha hb,
      isAtLeast_of_readable hb ha, atLeast, atLeast, atLeast, atLeast, (hcompare n _).1,
      (hcompare n _).2]
    exact ⟨rfl, rfl⟩
  · exact read_eq_ok_iff.mpr ⟨ha, rfl⟩
  · exact read_eq_ok_iff.mpr ⟨hb, rfl⟩
  · rw [hle ha hb, hle hb ha, same_iff, and_comm]
    exact le_antisymm_iff
  · rw [same_iff, key_eq_iff]
  · exact isAtLeast_of_readable ha hb
  · exact ⟨ofText (withZeros a n), read_eq_ok_iff.mpr ⟨readable_withZeros ha n, rfl⟩,
      key_eq_iff.mpr (hzeros n), hcompare n⟩

/-- A leading zero, a suffix and a part that is missing make two releases the same. -/
theorem order_releases :
    Readable "17.6.0-ce" ∧ Readable "17.06" ∧ Readable "1.13.1" ∧
    isAtLeast "17.6.0-ce" "17.06" = .ok true ∧ isAtLeast "17.06" "17.6.0-ce" = .ok true ∧
    isAtLeast "17.6.0-ce" "1.13.1" = .ok true := by
  have ha : Readable "17.6.0-ce" := by decide +kernel
  have hb : Readable "17.06" := by decide +kernel
  have hc : Readable "1.13.1" := by decide +kernel
  obtain ⟨-, htrans, -, -, -, v, w, hv, hw, hsame, hkey, -⟩ := order_of_readable ha hb hc
  obtain ⟨-, -, -, hlarger, -⟩ := order_of_readable hb hc ha
  obtain rfl := (read_eq_ok_iff.mp hv).2
  obtain rfl := (read_eq_ok_iff.mp hw).2
  obtain ⟨hab, hba⟩ := hsame.mp (hkey.mpr (by decide +kernel))
  have hbc : isAtLeast "17.06" "1.13.1" = .ok true :=
    hlarger.mpr (.inr ⟨0, fun k hk => absurd hk (Nat.not_lt_zero k), by decide +kernel⟩)
  exact ⟨ha, hb, hc, hab, hba, htrans hab hbc⟩

end Mooring.Version
