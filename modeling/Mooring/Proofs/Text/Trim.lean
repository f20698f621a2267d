import Mathlib.Data.List.DropRight
import Mathlib.Data.List.Induction
import Mooring.Proofs.Text.Pieces
import Mooring.Text.Line

/-! Lines of a text whose ends are trimmed. What is taken off is blank, so no line with something in
it is lost, and none comes to begin or to end in another way. -/

namespace Mooring.Text

/-! ### Trimmed texts -/

theorem trimLeft_cons {c : Char} (hc : isBlank c = true) (cs : List Char) :
    trimLeft (c :: cs) = trimLeft cs := by
  rw [trimLeft, List.dropWhile_cons_of_pos hc, trimLeft]

theorem trimRight_append {c : Char} (hc : isBlank c = true) (cs : List Char) :
    trimRight (cs ++ [c]) = trimRight cs := by
  rw [trimRight, List.reverse_append, List.reverse_singleton, List.singleton_append,
    List.dropWhile_cons_of_pos hc, trimRight]

/-- What no blank at the front changes, trimming on the left does not. -/
theorem apply_trimLeft {α : Type} {f : List Char → α}
    (h : ∀ c cs, isBlank c = true → f (c :: cs) = f cs) (cs : List Char) :
    f (trimLeft cs) = f cs := by
  induction cs with
  | nil => rfl
  | cons c cs ih =>
    by_cases hc : isBlank c = true
    · rw [trimLeft_cons hc, ih, h c cs hc]
    · rw [trimLeft, List.dropWhile_cons_of_neg hc]

/-- What no blank at the end changes, trimming on the right does not. -/
theorem apply_trimRight {α : Type} {f : List Char → α}
    (h : ∀ cs c, isBlank c = true → f (cs ++ [c]) = f cs) (cs : List Char) :
    f (trimRight cs) = f cs := by
  induction cs using List.reverseRecOn with
  | nil => rfl
  | append_singleton cs c ih =>
    by_cases hc : isBlank c = true
    · rw [trimRight_append hc, ih, h cs c hc]
    · rw [trimRight, List.reverse_append, List.reverse_singleton, List.singleton_append,
        List.dropWhile_cons_of_neg hc, List.reverse_cons, List.reverse_reverse]

theorem trim_cons {c : Char} (hc : isBlank c = true) (cs : List Char) :
    trim (c :: cs) = trim cs := by
  rw [trim, trimLeft_cons hc, trim]

theorem trim_append {c : Char} (hc : isBlank c = true) (cs : List Char) :
    trim (cs ++ [c]) = trim cs := by
  have hends : [c].dropWhile isBlank = [] := List.dropWhile_cons_of_pos hc
  rw [trim, trim, trimLeft, List.dropWhile_append, hends]
  split
  · next hnone =>
    rw [List.isEmpty_iff] at hnone
    rw [trimLeft, hnone]
  · rw [trimRight_append hc, trimLeft]

theorem trim_eq (cs : List Char) : trim cs = (cs.dropWhile isBlank).rdropWhile isBlank := rfl

theorem trim_eq_nil_iff {cs : List Char} : trim cs = [] ↔ ∀ c ∈ cs, isBlank c = true := by
  rw [trim_eq, List.rdropWhile_eq_nil_iff]
  constructor
  · intro h
    have hnil : cs.dropWhile isBlank = [] := by
      by_contra hne
      have hhead := List.head_dropWhile_not isBlank hne
      rw [h _ (List.head_mem hne)] at hhead
      cases hhead
    exact List.dropWhile_eq_nil_iff.mp hnil
  · exact fun h c hc => h c ((List.dropWhile_sublist isBlank).mem hc)

theorem trim_trim (cs : List Char) : trim (trim cs) = trim cs := by
  have hleft : (trim cs).dropWhile isBlank = trim cs := by
    refine List.dropWhile_eq_self_iff.mpr (fun hpos => ?_)
    have hne : trim cs ≠ [] := List.ne_nil_of_length_pos hpos
    have hhead : (trim cs).head hne = _ :=
      (List.rdropWhile_prefix isBlank (cs.dropWhile isBlank)).head hne
    rw [List.getElem_zero, hhead, List.head_dropWhile_not isBlank]
    exact Bool.false_ne_true
  rw [trim_eq (trim cs), hleft, trim_eq, List.rdropWhile_idempotent]

theorem trim_of_unblank {cs : List Char} (h : ∀ c ∈ cs, isBlank c = false) : trim cs = cs := by
  have hleft : cs.dropWhile isBlank = cs :=
    List.dropWhile_eq_self_iff.mpr (fun hpos => by simp [h])
  rw [trim_eq, hleft, List.rdropWhile_eq_self_iff]
  exact fun hne => by simp [h]

/-! ### Lines -/

/-- The lines with something in them, trimmed. -/
def written (ls : List (List Char)) : List (List Char) :=
  (ls.map trim).filter (fun line => !line.isEmpty)

theorem written_append (ls ms : List (List Char)) :
    written (ls ++ ms) = written ls ++ written ms := by
  simp [written]

theorem written_nil_cons (ls : List (List Char)) : written ([] :: ls) = written ls := rfl

theorem written_cons_congr {l m : List Char} {ls ms : List (List Char)} (h : trim l = trim m)
    (hrest : written ls = written ms) : written (l :: ls) = written (m :: ms) := by
  simp only [written] at hrest
  simp only [written, List.map_cons, List.filter_cons, h, hrest]

/-- Lines are the pieces between breaks, without an empty one at the end. -/
theorem splitAt_eq_linesAt (isBreak : Char → Bool) (cs : List Char) :
    splitAt isBreak cs = linesAt isBreak cs ∨ splitAt isBreak cs = linesAt isBreak cs ++ [[]] := by
  induction cs with
  | nil => exact .inr rfl
  | cons c cs ih =>
    by_cases hc : isBreak c = true
    · rcases ih with h | h
      · exact .inl (by simp [splitAt, linesAt, hc, h])
      · exact .inr (by simp [splitAt, linesAt, hc, h])
    · cases hlines : linesAt isBreak cs with
      | nil =>
        have hone : splitAt isBreak cs = [[]] := by
          rw [hlines] at ih
          exact ih.resolve_left (splitAt_ne_nil isBreak cs)
        exact .inl (by simp [splitAt, linesAt, hc, hlines, hone])
      | cons line lines =>
        rw [hlines] at ih
        rcases ih with h | h
        · exact .inl (by simp [splitAt, linesAt, hc, hlines, h])
        · exact .inr (by simp [splitAt, linesAt, hc, hlines, h])

theorem written_linesAt (isBreak : Char → Bool) (cs : List Char) :
    written (linesAt isBreak cs) = written (splitAt isBreak cs) := by
  rcases splitAt_eq_linesAt isBreak cs with h | h
  · rw [h]
  · rw [h, written_append]
    exact (List.append_nil _).symm

/-- A joined return takes away an empty piece. -/
theorem exists_splitAt_joinReturns (cs : List Char) : ∃ piece ls ms,
    splitAt isLineBreak (joinReturns cs) = piece :: ls ∧ splitAt isLineBreak cs = piece :: ms ∧
      written ls = written ms := by
  fun_induction joinReturns cs with
  | case1 cs ih =>
    obtain ⟨piece, ls, ms, hjoined, hcs, hwritten⟩ := ih
    refine ⟨[], piece :: ls, [] :: piece :: ms, ?_, ?_, ?_⟩
    · simp [splitAt, isLineBreak, hjoined]
    · simp [splitAt, isLineBreak, hcs]
    · rw [written_nil_cons]
      exact written_cons_congr rfl hwritten
  | case2 c cs _ ih =>
    obtain ⟨piece, ls, ms, hjoined, hcs, hwritten⟩ := ih
    by_cases hc : isLineBreak c = true
    · refine ⟨[], piece :: ls, piece :: ms, ?_, ?_, written_cons_congr rfl hwritten⟩
      · simp [splitAt, hc, hjoined]
      · simp [splitAt, hc, hcs]
    · refine ⟨c :: piece, ls, ms, ?_, ?_, hwritten⟩
      · simp [splitAt, hc, hjoined]
      · simp [splitAt, hc, hcs]
  | case3 => exact ⟨[], [], [], rfl, rfl, rfl⟩

theorem written_lines (cs : List Char) :
    written (lines cs) = written (splitAt isLineBreak cs) := by
  obtain ⟨piece, ls, ms, hjoined, hcs, hwritten⟩ := exists_splitAt_joinReturns cs
  rw [lines, written_linesAt, hjoined, hcs]
  exact written_cons_congr rfl hwritten

theorem written_splitAt_cons {c : Char} (hc : isBlank c = true) (cs : List Char) :
    written (splitAt isLineBreak (c :: cs)) = written (splitAt isLineBreak cs) := by
  by_cases hbreak : isLineBreak c = true
  · rw [splitAt, if_pos hbreak, written_nil_cons]
  · obtain ⟨piece, pieces, hcs⟩ := List.exists_cons_of_ne_nil (splitAt_ne_nil isLineBreak cs)
    rw [splitAt, if_neg hbreak, hcs]
    exact written_cons_congr (trim_cons hc piece) rfl

theorem written_splitAt_append {c : Char} (hc : isBlank c = true) (cs : List Char) :
    written (splitAt isLineBreak (cs ++ [c])) = written (splitAt isLineBreak cs) := by
  by_cases hbreak : isLineBreak c = true
  · rw [splitAt_append_separator _ hbreak, written_append]
    exact List.append_nil _
  · obtain ⟨pieces, last, next, more, hcs, hnone, hsplit⟩ :=
      exists_splitAt_append isLineBreak (Bool.eq_false_iff.mpr hbreak) cs []
    obtain ⟨rfl, rfl⟩ : [] = next ∧ [] = more := by simpa [splitAt] using hnone
    rw [hsplit, hcs, written_append, written_append]
    exact congrArg _ (written_cons_congr (trim_append hc last) rfl)

/-- Trimming a text loses no line with something in it. -/
theorem written_lines_trim (cs : List Char) : written (lines (trim cs)) = written (lines cs) := by
  rw [written_lines, written_lines, trim,
    apply_trimRight (f := fun cs => written (splitAt isLineBreak cs))
      (fun cs c hc => written_splitAt_append hc cs),
    apply_trimLeft (f := fun cs => written (splitAt isLineBreak cs))
      (fun c cs hc => written_splitAt_cons hc cs)]

end Mooring.Text
