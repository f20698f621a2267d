import Mooring.Text.Blank
import Mooring.Text.Numeral

/-! Numerals that are read back. Digits alone, of whatever script, are a numeral: they are no blanks
and no signs, and they write the number that they are worth in their radix. -/

namespace Mooring.Text

/-- What holds of the ten digits of each script holds of every digit. -/
theorem forall_isDigit {p : Char → Bool}
    (h : ∀ z ∈ digitZeros, ∀ k < 10, p (Char.ofNat (z + k)) = true) {c : Char}
    (hc : isDigit c = true) : p c = true := by
  obtain ⟨d, hd⟩ := Option.isSome_iff_exists.mp hc
  obtain ⟨z, hz, -⟩ := Option.map_eq_some_iff.mp hd
  have hrange := List.find?_some hz
  simp only [Bool.and_eq_true, decide_eq_true_eq] at hrange
  have hp := h z (List.mem_of_find?_eq_some hz) (c.toNat - z) (by omega)
  rwa [show z + (c.toNat - z) = c.toNat by omega, Char.ofNat_toNat] at hp

theorem not_isBlank_of_isDigit {c : Char} (h : isDigit c = true) : isBlank c = false := by
  have hp := forall_isDigit (p := fun c => !isBlank c) (by decide +kernel) h
  simpa using hp

theorem not_isDigit_of_isBlank {c : Char} (h : isBlank c = true) : isDigit c = false := by
  refine Bool.eq_false_iff.mpr (fun hc => ?_)
  rw [not_isBlank_of_isDigit hc] at h
  cases h

theorem ne_of_isDigit {c mark : Char} (hmark : isDigit mark = false) (h : isDigit c = true) :
    c ≠ mark := by
  rintro rfl
  rw [h] at hmark
  cases hmark

theorem isBlank_of_isNumeralBlank {c : Char} (h : isNumeralBlank c = true) :
    isBlank c = true := by
  simp only [isNumeralBlank, Bool.or_eq_true, Bool.and_eq_true, beq_iff_eq,
    decide_eq_true_eq] at h
  rcases h with (h | rfl) | h
  · simp [isBlank, h]
  · rfl
  · exact h.2

/-- What a character is that counts as a digit: a decimal one of some script or a letter. -/
theorem cases_of_digit? {radix : Radix} {c : Char} {d : Nat} (h : radix.digit? c = some d) :
    isDigit c = true ∨ (97 ≤ c.toNat ∧ c.toNat ≤ 102) ∨ 65 ≤ c.toNat ∧ c.toNat ≤ 70 := by
  cases hc : digitValue? c with
  | some d => exact .inl (by rw [isDigit, hc]; rfl)
  | none =>
    cases radix with
    | ten => simp [Radix.digit?, hc] at h
    | sixteen =>
      simp only [Radix.digit?, hc] at h
      split at h
      · next hsmall => exact .inr (.inl hsmall)
      · split at h
        · next hcapital => exact .inr (.inr hcapital)
        · cases h

theorem not_isBlank_of_digit? {radix : Radix} {c : Char} {d : Nat}
    (h : radix.digit? c = some d) : isBlank c = false := by
  rcases cases_of_digit? h with hc | hletter
  · exact not_isBlank_of_isDigit hc
  · refine Bool.eq_false_iff.mpr (fun hblank => ?_)
    simp only [isBlank, Bool.or_eq_true, Bool.and_eq_true, beq_iff_eq,
      decide_eq_true_eq] at hblank
    omega

theorem not_isNumeralBlank_of_digit? {radix : Radix} {c : Char} {d : Nat}
    (h : radix.digit? c = some d) : isNumeralBlank c = false := by
  refine Bool.eq_false_iff.mpr (fun hblank => ?_)
  have hc := isBlank_of_isNumeralBlank hblank
  rw [not_isBlank_of_digit? h] at hc
  cases hc

theorem ne_of_digit? {radix : Radix} {c mark : Char} {d : Nat}
    (hmark : radix.digit? mark = none) (h : radix.digit? c = some d) : c ≠ mark := by
  rintro rfl
  rw [hmark] at h
  cases h

theorem digit?_of_isDigit {radix : Radix} {c : Char} (h : isDigit c = true) :
    radix.digit? c = some ((digitValue? c).getD 0) := by
  obtain ⟨d, hd⟩ := Option.isSome_iff_exists.mp h
  cases radix <;> simp [Radix.digit?, hd]

section Worth

variable {radix : Radix} {worth : Char → Nat} {ds : List Char}
  (h : ∀ c ∈ ds, radix.digit? c = some (worth c))

include h

theorem takeDigits_of_worth : takeDigits radix ds = some (ds.map worth, []) := by
  have hjoint : radix.digit? '_' = none := by cases radix <;> rfl
  induction ds with
  | nil => simp [takeDigits]
  | cons c ds ih =>
    rw [List.forall_mem_cons] at h
    rw [takeDigits, h.1]
    split
    · next heq => cases heq
    · next heq =>
      cases heq
      split
      · next c' cs' =>
        exact absurd rfl (ne_of_digit? hjoint (h.2 '_' (List.mem_cons_self ..)))
      · simp [ih h.2]

/-- Digits do not open with the mark of a radix. -/
theorem dropRadixMark_of_worth : dropRadixMark radix ds = ds := by
  cases radix with
  | ten => rfl
  | sixteen =>
    cases ds with
    | nil => rfl
    | cons zero ds =>
      cases ds with
      | nil => rfl
      | cons x rest =>
        have hx : Radix.sixteen.digit? x = some (worth x) := h x (by simp)
        have hsmall : x ≠ 'x' := ne_of_digit? rfl hx
        have hcapital : x ≠ 'X' := ne_of_digit? rfl hx
        simp [dropRadixMark, hsmall, hcapital]

/-- Digits are read as the number they write, unless they are too many. -/
theorem readInt_of_worth (hne : ds ≠ []) (hlength : radix = .ten → ds.length ≤ decimalLimit) :
    readInt radix ds = .ok (ofDigits radix (ds.map worth)) := by
  obtain ⟨c, cs, rfl⟩ := List.exists_cons_of_ne_nil hne
  have hc : radix.digit? c = some (worth c) := h c (List.mem_cons_self ..)
  have hdrop : (c :: cs).dropWhile isNumeralBlank = c :: cs := by
    rw [List.dropWhile_cons_of_neg (by simp [not_isNumeralBlank_of_digit? hc])]
  have hminus : c ≠ '-' := ne_of_digit? (by cases radix <;> rfl) hc
  have hplus : c ≠ '+' := ne_of_digit? (by cases radix <;> rfl) hc
  have hsign : takeSign (c :: cs) = (false, c :: cs) := by simp [takeSign, hminus, hplus]
  rw [readInt, hdrop, hsign]
  simp only [dropRadixMark_of_worth h, takeDigits_of_worth h, List.length_map]
  rw [if_neg (fun htoo => Nat.not_lt.mpr (hlength htoo.1) htoo.2)]
  simp

end Worth

theorem ofDigits_digits (ds : List Char) :
    ofDigits .ten (ds.map (fun c => (digitValue? c).getD 0)) = digitsValue ds := by
  rw [ofDigits, List.foldl_map]
  rfl

/-- Decimal digits of whatever scripts are read as the number they are worth. -/
theorem readInt_digits {ds : List Char} (hne : ds ≠ []) (h : ∀ c ∈ ds, isDigit c = true)
    (hlength : ds.length ≤ decimalLimit) : readInt .ten ds = .ok (digitsValue ds) := by
  rw [readInt_of_worth (fun c hc => digit?_of_isDigit (h c hc)) hne (fun _ => hlength),
    ofDigits_digits]

end Mooring.Text
