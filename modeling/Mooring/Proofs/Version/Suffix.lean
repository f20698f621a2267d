import Mooring.Proofs.Version.Order

/-! Suffixes of version texts. What stands directly behind a sign is passed over, but each dot in a
suffix begins another part, whose number counts on behind those of the core. -/

namespace Mooring.Version

open Text

/-! ### Further numbers -/

/-- Numbers that go on behind others reach a bound that these do not reach only where the bound goes
on behind the same ones, and no further than they do. -/
theorem sequence_le_append_iff {bound core more : List Nat} :
    sequence bound ≤ sequence (core ++ more) ↔ sequence bound ≤ sequence core ∨
      ∃ rest, bound = core ++ rest ∧ sequence rest ≤ sequence more := by
  induction core generalizing bound with
  | nil =>
    refine ⟨fun h => .inr ⟨bound, rfl, h⟩, ?_⟩
    rintro (h | ⟨rest, rfl, h⟩)
    · exact h.trans (sequence_nil_le more)
    · exact h
  | cons a core ih =>
    cases bound with
    | nil => exact iff_of_true (sequence_nil_le _) (.inl (sequence_nil_le _))
    | cons b bound =>
      -- unless they are equal, the first numbers decide, and nothing behind them counts
      rcases Nat.lt_trichotomy b a with hlt | rfl | hlt
      · exact iff_of_true (sequence_cons_lt hlt _ _).le (.inl (sequence_cons_lt hlt _ _).le)
      · rw [List.cons_append, sequence_cons_le_cons_iff, sequence_cons_le_cons_iff, ih]
        simp
      · have hnot (more : List Nat) : ¬ sequence (b :: bound) ≤ sequence (a :: more) :=
          not_le.mpr (sequence_cons_lt hlt _ _)
        simp [hnot, hlt.ne']

/-! ### Suffixes -/

/-- A text that begins with one of the signs in front of a suffix. -/
def BeginsWithSign (text : String) : Prop :=
  text.toList.head? = some '-' ∨ text.toList.head? = some '+'

instance (text : String) : Decidable (BeginsWithSign text) :=
  inferInstanceAs (Decidable (_ ∨ _))

section Suffix

variable {core suffix : String} (h : BeginsWithSign suffix)

include h

theorem openings_append_suffix :
    openings (trim (core ++ suffix).toList) =
      openings (trim core.toList) ++ (openings (trim suffix.toList)).tail := by
  obtain ⟨sign, rest, hsuffix, hsign⟩ : ∃ sign rest, suffix.toList = sign :: rest ∧
      (isDigit sign = false ∧ sign ≠ '.' ∧ isBlank sign = false) := by
    rcases h with h | h
    · obtain ⟨rest, hrest⟩ := List.head?_eq_some_iff.mp h
      exact ⟨_, rest, hrest, rfl, by decide, rfl⟩
    · obtain ⟨rest, hrest⟩ := List.head?_eq_some_iff.mp h
      exact ⟨_, rest, hrest, rfl, by decide, rfl⟩
  obtain ⟨hdigit, hdot, hblank⟩ := hsign
  have hown : openings (sign :: rest) = [] :: (openings rest).tail :=
    openings_append_other hdigit hdot [] rest
  have htrim : trimLeft (sign :: rest) = sign :: rest := trimLeft_append hblank [] rest
  simp only [trim, openings_trimRight, String.toList_append, hsuffix, htrim,
    trimLeft_append hblank, openings_append_other hdigit hdot, hown, List.tail_cons]

theorem numbers_append_suffix :
    numbers (core ++ suffix) = numbers core ++ (numbers suffix).tail := by
  rw [numbers, openings_append_suffix h, List.map_append, List.map_tail]
  rfl

theorem readable_append_suffix (hcore : Readable core) (hsuffix : Readable suffix) :
    Readable (core ++ suffix) := by
  rw [Readable, openings_append_suffix h, List.forall_mem_append]
  exact ⟨hcore, fun digits hdigits => hsuffix digits (List.mem_of_mem_tail hdigits)⟩

/-- A suffix changes the verdict on a version exactly where the minimum is not reached without it,
goes on behind the very numbers of the version, and goes no further there than the numbers behind
the dots of the suffix; then the minimum is reached. -/
theorem verdict_of_suffix (hcore : Readable core) (hsuffix : Readable suffix) (minimum : String) :
    (isAtLeast (core ++ suffix) minimum ≠ isAtLeast core minimum ↔
      isAtLeast core minimum = .ok false ∧ ∃ rest, numbers minimum = numbers core ++ rest ∧
        sequence rest ≤ sequence (numbers suffix).tail) ∧
    (isAtLeast (core ++ suffix) minimum ≠ isAtLeast core minimum →
      isAtLeast (core ++ suffix) minimum = .ok true) := by
  have hboth := readable_append_suffix h hcore hsuffix
  by_cases hminimum : Readable minimum
  · have hreached : (ofText (core ++ suffix)).atLeast (ofText minimum) = true ↔
        (ofText core).atLeast (ofText minimum) = true ∨
          ∃ rest, numbers minimum = numbers core ++ rest ∧
            sequence rest ≤ sequence (numbers suffix).tail := by
      rw [atLeast_iff, atLeast_iff]
      simp only [ofText, numbers_append_suffix h]
      exact sequence_le_append_iff
    rw [isAtLeast_of_readable hboth hminimum, isAtLeast_of_readable hcore hminimum]
    generalize (ofText (core ++ suffix)).atLeast (ofText minimum) = after at hreached
    generalize (ofText core).atLeast (ofText minimum) = before at hreached
    cases before with
    | true =>
      obtain rfl : after = true := hreached.mpr (.inl rfl)
      simp
    | false =>
      simp only [Bool.false_eq_true, false_or] at hreached
      rw [← hreached]
      cases after <;> simp
  · have hsame : isAtLeast (core ++ suffix) minimum = isAtLeast core minimum := by
      rw [isAtLeast_eq_map hboth, isAtLeast_eq_map hcore]
      cases hread : read (some minimum) with
      | error fault => rfl
      | ok w => exact absurd (read_eq_ok_iff.mp hread).1 hminimum
    have hunread : isAtLeast core minimum ≠ .ok false :=
      fun hfalse => hminimum (isAtLeast_eq_ok_iff.mp hfalse).2.1
    simp [hsame, hunread]

end Suffix

/-! ### A release candidate -/

theorem numbers_release : numbers "1.6.0" = [1, 6, 0] := by decide +kernel

theorem numbers_patch : numbers "1.6.0.3" = [1, 6, 0, 3] := by decide +kernel

/-- The second candidate for a release is as far from a later patch as the release is. -/
theorem verdict_candidate :
    BeginsWithSign "-rc.2" ∧ Readable "1.6.0" ∧ Readable "-rc.2" ∧
    isAtLeast ("1.6.0" ++ "-rc.2") "1.6.0.3" = isAtLeast "1.6.0" "1.6.0.3" := by
  have hsign : BeginsWithSign "-rc.2" := by decide +kernel
  have hcore : Readable "1.6.0" := by decide +kernel
  have hsuffix : Readable "-rc.2" := by decide +kernel
  obtain ⟨hchanges, -⟩ := verdict_of_suffix hsign hcore hsuffix "1.6.0.3"
  refine ⟨hsign, hcore, hsuffix, not_not.mp (fun hne => ?_)⟩
  obtain ⟨-, rest, hrest, hle⟩ := hchanges.mp hne
  rw [numbers_release, numbers_patch] at hrest
  obtain rfl : [3] = rest := by simpa using hrest
  exact not_le.mpr (sequence_cons_lt (by decide) [] []) hle

/-- The fifth candidate for a release counts as newer than the third patch of that release. -/
theorem verdict_overtaken :
    BeginsWithSign "-rc.5" ∧ isAtLeast "1.6.0" "1.6.0.3" = .ok false ∧
    isAtLeast ("1.6.0" ++ "-rc.5") "1.6.0.3" = .ok true := by
  have hcandidate : numbers ("1.6.0" ++ "-rc.5") = [1, 6, 0, 5] := by decide +kernel
  refine ⟨by decide +kernel, ?_, ?_⟩
  · rw [isAtLeast_of_readable (by decide +kernel) (by decide +kernel), atLeast, compare, ofText,
      ofText, numbers_release, numbers_patch]
    simp [compareParts]
  · rw [isAtLeast_of_readable (by decide +kernel) (by decide +kernel), atLeast, compare, ofText,
      ofText, hcandidate, numbers_patch]
    simp [compareParts]

end Mooring.Version
