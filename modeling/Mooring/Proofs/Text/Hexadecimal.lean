import Mathlib.Tactic.IntervalCases
import Mooring.Proofs.Text.Numeral
import Mooring.Text.Case
import Mooring.Text.Quoted

/-! Numbers in hexadecimal digits. A number is read from as many of its digits as it has, in
capitals or not. -/

namespace Mooring.Text

/-! ### One digit -/

theorem toLower_cases (c : Char) :
    c.toLower = c ∨ 65 ≤ c.toNat ∧ c.toLower.toNat = c.toNat + 32 := by
  unfold Char.toLower
  split
  · next h =>
    have hcapital : c.val.toNat ≤ 90 := h.2
    refine .inr ⟨h.1, ?_⟩
    show (c.val.toNat + 32) % 4294967296 = c.val.toNat + 32
    exact Nat.mod_eq_of_lt (by omega)
  · exact .inl rfl

section Digit

variable {d : Nat} (hd : d < 16)

include hd

theorem digit?_hexDigit : Radix.sixteen.digit? (hexDigit d) = some d := by
  interval_cases d <;> rfl

theorem toLower_toUpper_hexDigit : (hexDigit d).toUpper.toLower = hexDigit d := by
  interval_cases d <;> rfl

theorem ten_le_of_letter (h : 97 ≤ (hexDigit d).toNat) : 10 ≤ d := by
  revert h
  interval_cases d <;> decide

theorem digit?_capital (hletter : 10 ≤ d) :
    Radix.sixteen.digit? (Char.ofNat ((hexDigit d).toNat - 32)) = some d := by
  interval_cases d <;> rfl

/-- A digit is worth the same in capitals. -/
theorem digit?_of_toLower {c : Char} (h : c.toLower = hexDigit d) :
    Radix.sixteen.digit? c = some d := by
  rcases toLower_cases c with hsame | ⟨hcapital, hsmall⟩
  · rw [← hsame, h, digit?_hexDigit hd]
  · have hletter : 10 ≤ d := ten_le_of_letter hd (by rw [← h]; omega)
    have hnumber : c.toNat = (hexDigit d).toNat - 32 := by rw [← h]; omega
    rw [← c.ofNat_toNat, hnumber, digit?_capital hd hletter]

end Digit

/-! ### All the digits -/

theorem ofDigits_append (radix : Radix) (ds : List Nat) (d : Nat) :
    ofDigits radix (ds ++ [d]) = radix.toNat * ofDigits radix ds + d := by
  rw [ofDigits, List.foldl_append]
  rfl

theorem exists_hexDigits (width n : Nat) :
    ∃ ds, hexDigits width n = ds.map hexDigit ∧ ds.length = width ∧ (∀ d ∈ ds, d < 16) ∧
      (n < Nat.pow 16 width → ofDigits .sixteen ds = n) := by
  induction width generalizing n with
  | zero =>
    refine ⟨[], rfl, rfl, List.forall_mem_nil _, fun hn => ?_⟩
    exact (Nat.lt_one_iff.mp hn).symm
  | succ width ih =>
    obtain ⟨ds, hdigits, hlength, hsmall, hvalue⟩ := ih (n / 16)
    have hlast : n % 16 < 16 := Nat.mod_lt n (by decide)
    refine ⟨ds ++ [n % 16], ?_, ?_, ?_, fun hn => ?_⟩
    · rw [hexDigits, hdigits, List.map_append]
      rfl
    · rw [List.length_append, hlength]
      rfl
    · exact List.forall_mem_append.mpr ⟨hsmall, List.forall_mem_singleton.mpr hlast⟩
    · have hpow : Nat.pow 16 (width + 1) = Nat.pow 16 width * 16 := rfl
      rw [ofDigits_append, hvalue (by omega)]
      exact Nat.div_add_mod n 16

theorem asciiLower_toUpper_hexDigits (width n : Nat) :
    asciiLower ((hexDigits width n).map Char.toUpper) = hexDigits width n := by
  obtain ⟨ds, hdigits, -, hsmall, -⟩ := exists_hexDigits width n
  rw [asciiLower, hdigits, List.map_map, List.map_map]
  exact List.map_congr_left (fun d hd => toLower_toUpper_hexDigit (hsmall d hd))

/-- What a character is worth as a hexadecimal digit; nothing where it is none. -/
def hexWorth (c : Char) : Nat := (Radix.sixteen.digit? c).getD 0

theorem worth_of_asciiLower {cs : List Char} {ds : List Nat} (hsmall : ∀ d ∈ ds, d < 16)
    (h : asciiLower cs = ds.map hexDigit) :
    cs.map hexWorth = ds ∧ ∀ c ∈ cs, Radix.sixteen.digit? c = some (hexWorth c) := by
  induction cs generalizing ds with
  | nil =>
    rw [List.map_eq_nil_iff.mp h.symm]
    exact ⟨rfl, List.forall_mem_nil _⟩
  | cons c cs ih =>
    obtain ⟨d, ds, rfl, hc, hcs⟩ := List.map_eq_cons_iff.mp h.symm
    rw [List.forall_mem_cons] at hsmall
    have hdigit : Radix.sixteen.digit? c = some d := digit?_of_toLower hsmall.1 hc.symm
    have hworth : hexWorth c = d := by rw [hexWorth, hdigit]; rfl
    obtain ⟨hmap, hall⟩ := ih hsmall.2 hcs.symm
    refine ⟨by rw [List.map_cons, hworth, hmap], List.forall_mem_cons.mpr ⟨?_, hall⟩⟩
    rw [hworth, hdigit]

theorem ne_nil_of_asciiLower {width n : Nat} (hwidth : 0 < width) {cs : List Char}
    (h : asciiLower cs = hexDigits width n) : cs ≠ [] := by
  rintro rfl
  obtain ⟨ds, hdigits, hlength, -⟩ := exists_hexDigits width n
  rw [← h] at hdigits
  rw [List.map_eq_nil_iff.mp hdigits.symm] at hlength
  exact Nat.ne_of_lt hwidth hlength

theorem isBlank_of_asciiLower {width n : Nat} {cs : List Char}
    (h : asciiLower cs = hexDigits width n) : ∀ c ∈ cs, isBlank c = false := by
  obtain ⟨ds, hdigits, -, hsmall, -⟩ := exists_hexDigits width n
  obtain ⟨-, hall⟩ := worth_of_asciiLower hsmall (h.trans hdigits)
  exact fun c hc => not_isBlank_of_digit? (hall c hc)

/-- The digits of a number are read as the number, if it has no more of them. -/
theorem readInt_hexDigits {width n : Nat} (hwidth : 0 < width) (hn : n < Nat.pow 16 width)
    {cs : List Char} (h : asciiLower cs = hexDigits width n) : readInt .sixteen cs = .ok n := by
  obtain ⟨ds, hdigits, -, hsmall, hvalue⟩ := exists_hexDigits width n
  obtain ⟨hmap, hall⟩ := worth_of_asciiLower hsmall (h.trans hdigits)
  have hne : cs ≠ [] := ne_nil_of_asciiLower hwidth h
  rw [readInt_of_worth hall hne (fun hten => by cases hten), hmap, hvalue hn]

end Mooring.Text
