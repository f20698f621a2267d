import Mathlib.Data.List.DropRight
import Mathlib.Order.PiLex
import Mooring.Version

/-! The order of versions. A version stands for the sequence of its numbers, which is zero from some
place on, and versions compare as their sequences do at the first place where these differ. Key and
equality tell the same: which sequence it is. -/

namespace Mooring.Version

/-- The numbers of a version, one for each place; the first place where two sequences differ
decides between them. -/
def sequence (parts : List Nat) : Lex (ℕ → ℕ) := toLex (fun i => parts.getD i 0)

theorem sequence_eq_iff {as bs : List Nat} :
    sequence as = sequence bs ↔ ∀ i, as.getD i 0 = bs.getD i 0 :=
  funext_iff

theorem sequence_lt_iff {as bs : List Nat} :
    sequence as < sequence bs ↔
      ∃ i, (∀ k < i, as.getD k 0 = bs.getD k 0) ∧ as.getD i 0 < bs.getD i 0 :=
  Iff.rfl

theorem sequence_le_iff {as bs : List Nat} :
    sequence bs ≤ sequence as ↔ (∀ i, as.getD i 0 = bs.getD i 0) ∨
      ∃ i, (∀ k < i, as.getD k 0 = bs.getD k 0) ∧ bs.getD i 0 < as.getD i 0 := by
  have hlt : sequence bs < sequence as ↔
      ∃ i, (∀ k < i, as.getD k 0 = bs.getD k 0) ∧ bs.getD i 0 < as.getD i 0 := by
    simp only [sequence_lt_iff, eq_comm]
  rw [le_iff_eq_or_lt, eq_comm]
  exact or_congr sequence_eq_iff hlt

theorem sequence_append_zeros (as : List Nat) (n : Nat) :
    sequence (as ++ List.replicate n 0) = sequence as := by
  refine sequence_eq_iff.mpr (fun i => ?_)
  simp only [List.getD_eq_getElem?_getD, List.getElem?_append, List.getElem?_replicate]
  by_cases hi : i < as.length
  · simp [hi]
  · by_cases hn : i - as.length < n <;> simp [hi, hn]

theorem sequence_nil : sequence [] = sequence [0] := (sequence_append_zeros [] 1).symm

theorem sequence_cons_lt {a b : Nat} (h : a < b) (as bs : List Nat) :
    sequence (a :: as) < sequence (b :: bs) :=
  sequence_lt_iff.mpr ⟨0, fun _ hk => absurd hk (Nat.not_lt_zero _), h⟩

/-- Equal numbers in front leave the order as it is. -/
theorem compares_cons {o : Ordering} {as bs : List Nat}
    (h : o.Compares (sequence as) (sequence bs)) (a : Nat) :
    o.Compares (sequence (a :: as)) (sequence (a :: bs)) := by
  have hlt {as bs : List Nat} (h : sequence as < sequence bs) :
      sequence (a :: as) < sequence (a :: bs) := by
    obtain ⟨i, hbefore, hi⟩ := sequence_lt_iff.mp h
    refine sequence_lt_iff.mpr ⟨i + 1, fun k hk => ?_, hi⟩
    cases k with
    | zero => rfl
    | succ k => exact hbefore k (Nat.lt_of_succ_lt_succ hk)
  cases o with
  | lt => exact hlt h
  | gt => exact hlt h
  | eq =>
    refine sequence_eq_iff.mpr (fun i => ?_)
    cases i with
    | zero => rfl
    | succ i => exact sequence_eq_iff.mp h i

theorem sequence_cons_le_cons_iff {a : Nat} {as bs : List Nat} :
    sequence (a :: as) ≤ sequence (a :: bs) ↔ sequence as ≤ sequence bs := by
  constructor
  · intro h
    by_contra hlt
    exact not_lt.mpr h (compares_cons (o := .lt) (not_le.mp hlt) a)
  · intro h
    rcases h.lt_or_eq with hlt | heq
    · exact (compares_cons (o := .lt) hlt a).le
    · exact (compares_cons (o := .eq) heq a).le

theorem sequence_nil_le (as : List Nat) : sequence [] ≤ sequence as := by
  induction as with
  | nil => exact le_rfl
  | cons a as ih =>
    rw [sequence_nil]
    cases a with
    | zero => exact sequence_cons_le_cons_iff.mpr ih
    | succ a => exact (sequence_cons_lt a.succ_pos [] as).le

theorem compares_compareParts (as bs : List Nat) :
    (compareParts as bs).Compares (sequence as) (sequence bs) := by
  -- the side that has ended goes on as if there were a zero
  fun_induction compareParts as bs with
  | case1 => rfl
  | case2 as ih => exact sequence_nil ▸ compares_cons ih 0
  | case3 a as ha => exact sequence_nil ▸ sequence_cons_lt (Nat.pos_of_ne_zero ha) [] as
  | case4 bs ih => exact sequence_nil ▸ compares_cons ih 0
  | case5 b bs hb => exact sequence_nil ▸ sequence_cons_lt (Nat.pos_of_ne_zero hb) [] bs
  | case6 a as b bs hab => exact sequence_cons_lt hab as bs
  | case7 a as b bs _ hba => exact sequence_cons_lt hba bs as
  | case8 a as b bs hab hba ih =>
    obtain rfl : a = b := Nat.le_antisymm (Nat.le_of_not_lt hba) (Nat.le_of_not_lt hab)
    exact compares_cons ih a

variable {v w : Version}

theorem same_iff : v.same w = true ↔ sequence v.parts = sequence w.parts := by
  rw [same, beq_iff_eq, compare]
  exact (compares_compareParts _ _).eq_eq

theorem atLeast_iff : v.atLeast w = true ↔ sequence w.parts ≤ sequence v.parts := by
  rw [atLeast, bne_iff_ne, compare]
  exact (compares_compareParts _ _).ne_lt

theorem compare_congr {v' w' : Version} (hv : sequence v.parts = sequence v'.parts)
    (hw : sequence w.parts = sequence w'.parts) : v.compare w = v'.compare w' := by
  have h := compares_compareParts v.parts w.parts
  rw [hv, hw] at h
  exact h.inj (compares_compareParts v'.parts w'.parts)

/-! ### Keys -/

theorem sequence_dropTrailingZeros (as : List Nat) :
    sequence (dropTrailingZeros as) = sequence as := by
  induction as using List.reverseRecOn with
  | nil => rfl
  | append_singleton as a ih =>
    rw [dropTrailingZeros, ← List.rdropWhile] at *
    by_cases ha : a = 0
    · rw [List.rdropWhile_concat_pos _ _ _ (by simpa using ha), ih, ha]
      exact (sequence_append_zeros as 1).symm
    · rw [List.rdropWhile_concat_neg _ _ _ (by simpa using ha)]

theorem dropTrailingZeros_append_zeros (as : List Nat) (n : Nat) :
    dropTrailingZeros (as ++ List.replicate n 0) = dropTrailingZeros as := by
  induction n with
  | zero => rw [List.replicate_zero, List.append_nil]
  | succ n ih =>
    rw [List.replicate_succ', ← List.append_assoc, dropTrailingZeros, ← List.rdropWhile,
      List.rdropWhile_concat_pos _ _ _ rfl]
    exact ih

/-- The longer one of two versions with the same sequence has zeros more. -/
theorem eq_append_zeros {as bs : List Nat} (hlength : as.length ≤ bs.length)
    (h : sequence as = sequence bs) :
    bs = as ++ List.replicate (bs.length - as.length) 0 := by
  refine List.ext_getElem (by simp; omega) (fun i hi _ => ?_)
  have hat := sequence_eq_iff.mp h i
  rw [List.getElem_append]
  by_cases has : i < as.length
  · simpa [List.getD_eq_getElem?_getD, hi, has] using hat.symm
  · simpa [List.getD_eq_getElem?_getD, hi, has] using hat.symm

theorem key_eq_iff : v.key = w.key ↔ sequence v.parts = sequence w.parts := by
  have hdrop {as bs : List Nat} (hlength : as.length ≤ bs.length)
      (h : sequence as = sequence bs) : dropTrailingZeros as = dropTrailingZeros bs := by
    rw [eq_append_zeros hlength h, dropTrailingZeros_append_zeros]
  constructor
  · intro h
    rw [← sequence_dropTrailingZeros v.parts, ← sequence_dropTrailingZeros w.parts]
    exact congrArg sequence h
  · intro h
    rcases Nat.le_total v.parts.length w.parts.length with hlength | hlength
    · exact hdrop hlength h
    · exact (hdrop hlength h.symm).symm

end Mooring.Version
