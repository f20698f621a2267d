import Mooring.Text.Cut
import Mooring.Text.Line

/-! Texts put together and cut again. A cut at a separator comes between the pieces of what stands
in front of it and those of what follows, so fields with blanks between them and lines with breaks
between them are found as they were. -/

namespace Mooring.Text

/-! ### Pieces -/

section Pieces

variable (isSep : Char → Bool) {c : Char}

theorem splitAt_of_unseparated {cs : List Char} (h : ∀ c ∈ cs, isSep c = false) :
    splitAt isSep cs = [cs] := by
  induction cs with
  | nil => rfl
  | cons c cs ih =>
    rw [List.forall_mem_cons] at h
    simp [splitAt, h.1, ih h.2]

/-- A cut loses nothing but the separators. -/
theorem flatten_splitAt (cs : List Char) :
    (splitAt isSep cs).flatten = cs.filter (fun c => !isSep c) := by
  induction cs with
  | nil => rfl
  | cons x cs ih =>
    rw [splitAt]
    cases hx : isSep x with
    | true => simp [hx, ih]
    | false =>
      cases hcut : splitAt isSep cs with
      | nil => exact absurd hcut (splitAt_ne_nil _ _)
      | cons piece pieces =>
        rw [hcut] at ih
        simpa [hx] using ih

theorem splitAt_append_separator (hc : isSep c = true) (l r : List Char) :
    splitAt isSep (l ++ c :: r) = splitAt isSep l ++ splitAt isSep r := by
  induction l with
  | nil => simp [splitAt, hc]
  | cons x l ih =>
    rw [List.cons_append, splitAt, splitAt, ih]
    by_cases hx : isSep x = true
    · simp [hx]
    · cases hl : splitAt isSep l with
      | nil => exact absurd hl (splitAt_ne_nil _ _)
      | cons piece pieces => simp [hx]

/-- A character that is no separator goes on with the last piece. -/
theorem exists_splitAt_append (hc : isSep c = false) (l r : List Char) :
    ∃ pieces last next more, splitAt isSep l = pieces ++ [last] ∧ splitAt isSep r = next :: more ∧
      splitAt isSep (l ++ c :: r) = pieces ++ (last ++ c :: next) :: more := by
  obtain ⟨next, more, hr⟩ : ∃ next more, splitAt isSep r = next :: more :=
    List.exists_cons_of_ne_nil (splitAt_ne_nil _ _)
  suffices h : ∃ pieces last, splitAt isSep l = pieces ++ [last] ∧
      splitAt isSep (l ++ c :: r) = pieces ++ (last ++ c :: next) :: more by
    obtain ⟨pieces, last, hl, hlr⟩ := h
    exact ⟨pieces, last, next, more, hl, hr, hlr⟩
  induction l with
  | nil => exact ⟨[], [], rfl, by simp [splitAt, hc, hr]⟩
  | cons x l ih =>
    obtain ⟨pieces, last, hl, hlr⟩ := ih
    rw [List.cons_append, splitAt, splitAt, hl, hlr]
    by_cases hx : isSep x = true
    · exact ⟨[] :: pieces, last, by simp [hx], by simp [hx]⟩
    · cases pieces with
      | nil => exact ⟨[], x :: last, by simp [hx], by simp [hx]⟩
      | cons piece pieces => exact ⟨(x :: piece) :: pieces, last, by simp [hx], by simp [hx]⟩

end Pieces

/-! ### Fields -/

theorem fields_of_blank_cons {c : Char} (hc : isBlank c = true) (cs : List Char) :
    fields (c :: cs) = fields cs := by
  simp [fields, splitAt, hc]

theorem fields_of_word {word : List Char} (hne : word ≠ []) (h : ∀ c ∈ word, isBlank c = false) :
    fields word = [word] := by
  rw [fields, splitAt_of_unseparated isBlank h]
  simp [hne]

section Blanks

variable {blanks : List Char} (hblank : ∀ c ∈ blanks, isBlank c = true)

include hblank

theorem fields_blanks_append (cs : List Char) : fields (blanks ++ cs) = fields cs := by
  induction blanks with
  | nil => rfl
  | cons c blanks ih =>
    rw [List.forall_mem_cons] at hblank
    rw [List.cons_append, fields_of_blank_cons hblank.1, ih hblank.2]

variable {word : List Char} (hne : word ≠ []) (h : ∀ c ∈ word, isBlank c = false)

include hne h

/-- A word ends at the blanks behind it. -/
theorem fields_word_append (hsome : blanks ≠ []) (cs : List Char) :
    fields (word ++ (blanks ++ cs)) = word :: fields cs := by
  obtain ⟨c, more, rfl⟩ := List.exists_cons_of_ne_nil hsome
  rw [List.forall_mem_cons] at hblank
  rw [← fields_blanks_append hblank.2 cs, List.cons_append, fields,
    splitAt_append_separator isBlank hblank.1, splitAt_of_unseparated isBlank h]
  simp [fields, hne]

theorem fields_word_blanks : fields (word ++ blanks) = [word] := by
  by_cases hsome : blanks = []
  · rw [hsome, List.append_nil, fields_of_word hne h]
  · rw [← List.append_nil blanks, fields_word_append hblank hne h hsome]
    rfl

end Blanks

/-! ### Lines -/

theorem joinReturns_of_not_mem {cs : List Char} (h : '\r' ∉ cs) : joinReturns cs = cs := by
  fun_induction joinReturns cs with
  | case1 cs ih => simp at h
  | case2 c cs _ ih => rw [ih (fun hmem => h (List.mem_cons_of_mem c hmem))]
  | case3 => rfl

section Lines

variable {isBreak : Char → Bool} {line : List Char} (h : ∀ c ∈ line, isBreak c = false)

include h

theorem linesAt_of_unbroken (hne : line ≠ []) : linesAt isBreak line = [line] := by
  induction line with
  | nil => exact absurd rfl hne
  | cons c line ih =>
    rw [List.forall_mem_cons] at h
    cases line with
    | nil => simp [linesAt, h.1]
    | cons d line =>
      rw [linesAt, ih h.2 (List.cons_ne_nil d line)]
      simp [h.1]

theorem linesAt_append_break {c : Char} (hc : isBreak c = true) (rest : List Char) :
    linesAt isBreak (line ++ c :: rest) = line :: linesAt isBreak rest := by
  induction line with
  | nil => simp [linesAt, hc]
  | cons d line ih =>
    rw [List.forall_mem_cons] at h
    rw [List.cons_append, linesAt, ih h.2]
    simp [h.1]

end Lines

/-- Lines with something in each are found as they were, whether or not the last is ended too. -/
theorem linesAt_joinWith {isBreak : Char → Bool} {c : Char} (hc : isBreak c = true)
    {ending : List Char} (hending : ending = [] ∨ ending = [c]) {ls : List (List Char)}
    (hne : ls ≠ []) (h : ∀ line ∈ ls, line ≠ [] ∧ ∀ c ∈ line, isBreak c = false) :
    linesAt isBreak (joinWith [c] ls ++ ending) = ls := by
  induction ls with
  | nil => exact absurd rfl hne
  | cons line ls ih =>
    rw [List.forall_mem_cons] at h
    cases ls with
    | nil =>
      rw [joinWith]
      rcases hending with rfl | rfl
      · rw [List.append_nil, linesAt_of_unbroken h.1.2 h.1.1]
      · rw [linesAt_append_break h.1.2 hc]
        rfl
    | cons next ls =>
      have hmore : next :: ls ≠ [] := List.cons_ne_nil next ls
      rw [joinWith, List.append_assoc, List.append_assoc, List.singleton_append,
        linesAt_append_break h.1.2 hc, ih hmore h.2]
      exact hmore

/-- The lines below a heading, which may itself be empty. -/
theorem linesAt_headed {isBreak : Char → Bool} {c : Char} (hc : isBreak c = true)
    {heading ending : List Char} (hheading : ∀ c ∈ heading, isBreak c = false)
    (hending : ending = [] ∨ ending = [c]) {ls : List (List Char)}
    (h : ∀ line ∈ ls, line ≠ [] ∧ ∀ c ∈ line, isBreak c = false) :
    (linesAt isBreak (joinWith [c] (heading :: ls) ++ ending)).drop 1 = ls := by
  cases ls with
  | nil =>
    rw [joinWith]
    rcases hending with rfl | rfl
    · rw [List.append_nil]
      by_cases hempty : heading = []
      · rw [hempty]
        rfl
      · rw [linesAt_of_unbroken hheading hempty]
        rfl
    · rw [linesAt_append_break hheading hc]
      rfl
  | cons line ls =>
    have hmore : line :: ls ≠ [] := List.cons_ne_nil line ls
    rw [joinWith, List.append_assoc, List.append_assoc, List.singleton_append,
      linesAt_append_break hheading hc, linesAt_joinWith hc hending hmore h]
    · rfl
    · exact hmore

theorem forall_mem_joinWith {p : Char → Prop} {between : List Char} {ls : List (List Char)}
    (hb : ∀ c ∈ between, p c) (h : ∀ line ∈ ls, ∀ c ∈ line, p c) :
    ∀ c ∈ joinWith between ls, p c := by
  induction ls with
  | nil => simp [joinWith]
  | cons line ls ih =>
    rw [List.forall_mem_cons] at h
    cases ls with
    | nil => exact h.1
    | cons next ls =>
      rw [joinWith, List.forall_mem_append, List.forall_mem_append]
      · exact ⟨⟨h.1, hb⟩, ih h.2⟩
      · exact List.cons_ne_nil next ls

/-- The end of a text whose last line is ended like the others or not. -/
theorem closing_cases (closed : Bool) :
    (if closed then ['\n'] else []) = [] ∨ (if closed then ['\n'] else []) = ['\n'] := by
  cases closed with
  | true => exact .inr rfl
  | false => exact .inl rfl

section Headed

variable {isBreak : Char → Bool} (hline : isBreak '\n' = true) (hreturn : isBreak '\r' = true)
  {heading ending : List Char} (hheading : ∀ c ∈ heading, isBreak c = false)
  (hending : ending = [] ∨ ending = ['\n']) {ls : List (List Char)}
  (h : ∀ line ∈ ls, line ≠ [] ∧ ∀ c ∈ line, isBreak c = false)

include hreturn hheading hending h

theorem return_not_mem_headed : '\r' ∉ joinWith ['\n'] (heading :: ls) ++ ending := by
  have hunreturned {line : List Char} (hunbroken : ∀ c ∈ line, isBreak c = false) :
      ∀ c ∈ line, c ≠ '\r' := by
    rintro c hc rfl
    rw [hunbroken _ hc] at hreturn
    cases hreturn
  have hall : ∀ c ∈ joinWith ['\n'] (heading :: ls) ++ ending, c ≠ '\r' := by
    refine List.forall_mem_append.mpr ⟨forall_mem_joinWith (by simp) ?_, ?_⟩
    · exact List.forall_mem_cons.mpr
        ⟨hunreturned hheading, fun line hl => hunreturned (h line hl).2⟩
    · rcases hending with rfl | rfl <;> simp
  exact fun hmem => hall _ hmem rfl

include hline

/-- The lines below a heading, where no line holds a break. -/
theorem linesAt_joinReturns_headed :
    (linesAt isBreak (joinReturns (joinWith ['\n'] (heading :: ls) ++ ending))).drop 1 = ls := by
  rw [joinReturns_of_not_mem (return_not_mem_headed hreturn hheading hending h)]
  exact linesAt_headed hline hheading hending h

end Headed

end Mooring.Text
