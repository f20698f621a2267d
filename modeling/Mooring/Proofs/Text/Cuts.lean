import Mathlib.Data.List.TakeWhile
import Mooring.Proofs.Text.Pieces

/-! Cuts at a mark whose place is known: the first or the last one, and all of them in what was
joined by them. -/

namespace Mooring.Text

variable {mark : Char} {l r : List Char}

/-! ### One cut -/

theorem before_of_not_mem (h : mark ∉ l) : before mark l = l := by
  have hall : ∀ c ∈ l, decide (c ≠ mark) = true := fun c hc =>
    decide_eq_true (fun heq => h (heq ▸ hc))
  exact List.takeWhile_eq_self_iff.mpr hall

theorem before_append (h : mark ∉ l) (r : List Char) : before mark (l ++ mark :: r) = l :=
  before_of_cutFirst (cutFirst_append h r)

theorem afterLast_of_not_mem (h : mark ∉ l) : afterLast mark l = l := by
  have hnone : cutFirst mark l.reverse = none :=
    cutFirst_eq_none_iff.mpr (fun hmem => h (List.mem_reverse.mp hmem))
  simp [afterLast, cutLast, hnone]

theorem afterLast_append (h : mark ∉ r) (l : List Char) : afterLast mark (l ++ mark :: r) = r := by
  have hcut : cutFirst mark (r.reverse ++ mark :: l.reverse) = some (r.reverse, l.reverse) :=
    cutFirst_append (fun hmem => h (List.mem_reverse.mp hmem)) l.reverse
  simp [afterLast, cutLast, hcut]

theorem subset_of_cutFirst {cs : List Char} (h : cutFirst mark cs = some (l, r)) :
    l ⊆ cs ∧ r ⊆ cs := by
  obtain ⟨rfl, -⟩ := cutFirst_eq_some h
  have hbehind : r ⊆ mark :: r := List.subset_cons_self _ _
  exact ⟨List.subset_append_left _ _, List.Subset.trans hbehind (List.subset_append_right _ _)⟩

theorem before_subset (mark : Char) (cs : List Char) : before mark cs ⊆ cs :=
  List.takeWhile_subset _

theorem afterLast_subset (mark : Char) (cs : List Char) : afterLast mark cs ⊆ cs := by
  rw [afterLast, cutLast]
  cases hcut : cutFirst mark cs.reverse with
  | none => exact List.Subset.refl _
  | some parts =>
    intro c hc
    exact List.mem_reverse.mp ((subset_of_cutFirst hcut).1 (List.mem_reverse.mp hc))

/-! ### All cuts -/

/-- What is joined by a separator is cut into the pieces it was joined from; of no pieces there is
one that is empty. -/
theorem splitAt_joinWith {isSep : Char → Bool} (hmark : isSep mark = true)
    {pieces : List (List Char)} (h : ∀ piece ∈ pieces, ∀ c ∈ piece, isSep c = false) :
    splitAt isSep (joinWith [mark] pieces) = if pieces = [] then [[]] else pieces := by
  induction pieces with
  | nil => rfl
  | cons piece pieces ih =>
    rw [List.forall_mem_cons] at h
    cases pieces with
    | nil => simp [joinWith, splitAt_of_unseparated isSep h.1]
    | cons next pieces =>
      have hjoin : joinWith [mark] (piece :: next :: pieces) =
          piece ++ mark :: joinWith [mark] (next :: pieces) := by
        simp [joinWith]
      rw [hjoin, splitAt_append_separator isSep hmark, splitAt_of_unseparated isSep h.1, ih h.2]
      simp

/-- What is cut at every mark is joined by the marks again. -/
theorem joinWith_splitAt (mark : Char) (cs : List Char) :
    joinWith [mark] (splitAt (· == mark) cs) = cs := by
  induction cs with
  | nil => rfl
  | cons c cs ih =>
    obtain ⟨piece, pieces, hcut⟩ : ∃ piece pieces, splitAt (· == mark) cs = piece :: pieces :=
      List.exists_cons_of_ne_nil (splitAt_ne_nil _ _)
    rw [hcut] at ih
    rw [splitAt, hcut]
    by_cases hc : c = mark
    · simp [hc, joinWith, ih]
    · cases pieces with
      | nil => simpa [hc, joinWith] using ih
      | cons next pieces =>
        rw [joinWith] at ih
        · simp [hc, joinWith, ← ih]
        · exact List.cons_ne_nil next pieces

end Mooring.Text
