import Mathlib.Tactic.IntervalCases
import Mooring.Text.Blank
import Mooring.Text.Case

/-! Small letters of ASCII. The table of capitals begins with those of ASCII and lies beyond ASCII
otherwise, and both letters with a rule of their own lie beyond it too; so a text of ASCII alone is
written small letter by letter. -/

namespace Mooring.Text

/-- The capitals of ASCII are the first run of the table. -/
theorem capitalRuns_eq : ∃ runs, capitalRuns = (0x41, 0x5a, 1, 32) :: runs ∧
    ∀ run ∈ runs, 128 ≤ run.1 :=
  ⟨capitalRuns.tail, rfl, by decide +kernel⟩

theorem ofNat_toLower {n : Nat} (h : 65 ≤ n ∧ n ≤ 90) :
    Char.ofNat (n + 32) = (Char.ofNat n).toLower := by
  obtain ⟨hfirst, hlast⟩ := h
  interval_cases n <;> rfl

theorem toLower_of_not_capital {c : Char} (h : ¬ (65 ≤ c.toNat ∧ c.toNat ≤ 90)) :
    c.toLower = c := by
  unfold Char.toLower
  exact dif_neg h

theorem smallLetter_of_ascii {c : Char} (h : c.toNat < 128) : smallLetter c = c.toLower := by
  obtain ⟨runs, hruns, hbeyond⟩ := capitalRuns_eq
  rw [smallLetter, hruns]
  by_cases hc : 65 ≤ c.toNat ∧ c.toNat ≤ 90
  · have hcapital := ofNat_toLower hc
    rw [Char.ofNat_toNat] at hcapital
    have hsum : ((c.toNat : Int) + 32).toNat = c.toNat + 32 := by omega
    simp [hc, hsum, hcapital, Nat.mod_one]
  · have hfirst : (decide (65 ≤ c.toNat) && decide (c.toNat ≤ 90)) = false := by simpa using hc
    rw [List.find?_cons_of_neg (by simp [hfirst]), List.find?_eq_none.mpr,
      toLower_of_not_capital hc]
    intro run hrun
    have := hbeyond run hrun
    simp
    omega

theorem lowerAfter_of_ascii {cs : List Char} (h : ∀ c ∈ cs, c.toNat < 128) (behindCased : Bool) :
    lowerAfter behindCased cs = asciiLower cs := by
  induction cs generalizing behindCased with
  | nil => rfl
  | cons c cs ih =>
    rw [List.forall_mem_cons] at h
    have hdotted : c ≠ '\u0130' := by
      rintro rfl
      exact absurd h.1 (by decide)
    have hsigma : c ≠ 'Σ' := by
      rintro rfl
      exact absurd h.1 (by decide)
    simp [lowerAfter, hdotted, hsigma, smallLetter_of_ascii h.1, ih h.2, asciiLower]

/-- A text of ASCII is written small letter by letter. -/
theorem lower_of_ascii {cs : List Char} (h : ∀ c ∈ cs, c.toNat < 128) :
    lower cs = asciiLower cs :=
  lowerAfter_of_ascii h false

/-! ### Blanks -/

/-- No capital has a blank for its small letter. -/
theorem isBlank_capitalRuns : ∀ run ∈ capitalRuns, ∀ i < run.2.1 + 1 - run.1,
    isBlank (Char.ofNat ((run.1 + i : Nat) + run.2.2.2 : Int).toNat) = false := by
  decide +kernel

theorem not_isBlank_smallLetter {c : Char} (h : isBlank c = false) :
    isBlank (smallLetter c) = false := by
  unfold smallLetter
  simp only
  split
  · next first last step distance hfound =>
    have hmem := List.mem_of_find?_eq_some hfound
    have hrun := List.find?_some hfound
    simp only [Bool.and_eq_true, decide_eq_true_eq] at hrun
    have hletter := isBlank_capitalRuns _ hmem (c.toNat - first) (by simp only; omega)
    simp only at hletter
    rwa [Nat.add_sub_cancel' hrun.1.1] at hletter
  · exact h

theorem not_isBlank_lowerAfter {cs : List Char} (h : ∀ c ∈ cs, isBlank c = false) (cased : Bool) :
    ∀ c ∈ lowerAfter cased cs, isBlank c = false := by
  induction cs generalizing cased with
  | nil => exact List.forall_mem_nil _
  | cons c cs ih =>
    rw [List.forall_mem_cons] at h
    rw [lowerAfter, List.forall_mem_append]
    refine ⟨?_, ih h.2 _⟩
    split
    · exact List.forall_mem_cons.mpr ⟨rfl, List.forall_mem_singleton.mpr rfl⟩
    · split
      · exact List.forall_mem_singleton.mpr rfl
      · exact List.forall_mem_singleton.mpr (not_isBlank_smallLetter h.1)

theorem not_isBlank_lower {cs : List Char} (h : ∀ c ∈ cs, isBlank c = false) :
    ∀ c ∈ lower cs, isBlank c = false := not_isBlank_lowerAfter h false

end Mooring.Text
