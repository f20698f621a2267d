import Mooring.CommandLine
import Mooring.Proofs.Run

/-! The values on a command line. Wherever a value stands on it, and however its option is written,
an option of the grammar has taken it and does not refuse it. -/

namespace Mooring.CommandLine

open Mooring.Action

variable {g : Grammar} {option : ValueOption} {tail : Tail} {arguments found : Arguments}

/-- An option of the grammar takes the value that is given for it. -/
def Grammar.Accepts (g : Grammar) (given : String × String) : Prop :=
  ∃ option ∈ g.options, option.name = given.1 ∧ option.refusal given.2 = none

/-! ### Words -/

theorem mem_of_roleOf {spelling : String} {tail' : Tail}
    (h : roleOf g spelling tail' = .valued option tail) : option ∈ g.options := by
  rw [roleOf] at h
  split at h
  · next found hfind =>
    cases h
    exact List.mem_of_find?_eq_some hfind
  · cases h

theorem mem_of_readRole {text : String} (h : readRole g text = .ok (.valued option tail)) :
    option ∈ g.options := by
  rw [readRole] at h
  split at h
  · split at h
    · exact mem_of_roleOf (Except.ok.inj h)
    · split at h
      · exact mem_of_roleOf (Except.ok.inj h)
      · rw [shortenedRole] at h
        split at h
        · exact mem_of_roleOf (Except.ok.inj h)
        · split at h <;> cases h
        · cases h
  · cases h

/-- If a word stands for an option, that is one of the grammar. -/
def Word.IsOf (g : Grammar) (word : Word) : Prop :=
  ∀ option tail, word.role = .valued option tail → option ∈ g.options

theorem isOf_of_readWords {texts : List String} {words : List Word}
    (h : readWords g texts = .ok words) : ∀ word ∈ words, word.IsOf g := by
  induction texts generalizing words with
  | nil =>
    cases h
    simp
  | cons text texts ih =>
    rw [readWords] at h
    split at h
    · cases h
      refine List.forall_mem_cons.mpr ⟨nofun, fun word hmem => ?_⟩
      obtain ⟨text, -, rfl⟩ := List.mem_map.mp hmem
      nofun
    · obtain ⟨role, hrole, h⟩ := exists_of_bind_eq_ok h
      obtain ⟨more, hmore, h⟩ := exists_of_bind_eq_ok h
      cases h
      refine List.forall_mem_cons.mpr ⟨?_, ih hmore⟩
      rintro option tail rfl
      exact mem_of_readRole hrole

/-! ### Reading -/

theorem subset_of_takeOperand? {operand : Operand} {words rest : List Word} {taken : List String}
    (h : arguments.takeOperand? operand words = some (taken, rest)) : rest ⊆ words := by
  unfold Arguments.takeOperand? at h
  split at h
  · cases h
  · unfold takeOperand at h
    split at h <;> grind

theorem accepts_of_give {value : String} (h : arguments.give option value = .ok found)
    (hoption : option ∈ g.options) (hvalues : ∀ given ∈ arguments.values, g.Accepts given) :
    ∀ given ∈ found.values, g.Accepts given := by
  rw [Arguments.give] at h
  split at h
  · cases h
  · next hnone =>
    cases h
    refine List.forall_mem_append.mpr ⟨hvalues, List.forall_mem_singleton.mpr ?_⟩
    exact ⟨option, hoption, rfl, hnone⟩

theorem accepts_of_collect {words : List Word} (h : collect g arguments words = .ok found)
    (hwords : ∀ word ∈ words, word.IsOf g) (hvalues : ∀ given ∈ arguments.values, g.Accepts given) :
    ∀ given ∈ found.values, g.Accepts given := by
  -- along the reading: a value comes in from a word of an option, and all else keeps the values
  fun_induction collect g arguments words with
  | case1 =>
    cases h
    exact hvalues
  | case2 arguments word words hrole ih =>
    exact ih h (List.forall_mem_cons.mp hwords).2 hvalues
  | case3 => cases h
  | case4 arguments word words option value hrole ih =>
    obtain ⟨hword, hwords⟩ := List.forall_mem_cons.mp hwords
    obtain ⟨more, hgive, h⟩ := exists_of_bind_eq_ok h
    exact ih more h hwords (accepts_of_give hgive (hword _ _ hrole) hvalues)
  | case5 arguments word option tail htail hrole value words ih =>
    obtain ⟨hword, hwords⟩ := List.forall_mem_cons.mp hwords
    obtain ⟨more, hgive, h⟩ := exists_of_bind_eq_ok h
    exact ih more h (List.forall_mem_cons.mp hwords).2
      (accepts_of_give hgive (hword _ _ hrole) hvalues)
  | case6 => cases h
  | case7 arguments word words operand rest htaken _ _ _ _ ih =>
    exact ih h (fun word hmem => hwords word (subset_of_takeOperand? htaken hmem)) hvalues
  | case8 arguments word words _ _ _ _ _ ih =>
    exact ih h (List.forall_mem_cons.mp hwords).2 hvalues

theorem values_of_requireOperand (h : requireOperand g arguments = .ok found) :
    found.values = arguments.values := by
  rw [requireOperand] at h
  split at h <;> cases h <;> rfl

/-- Every value that is read was taken by an option of the grammar. -/
theorem accepts_of_readArguments {texts : List String} (h : readArguments g texts = .ok found) :
    ∀ given ∈ found.values, g.Accepts given := by
  obtain ⟨words, hwords, h⟩ := exists_of_bind_eq_ok h
  obtain ⟨collected, hcollect, h⟩ := exists_of_bind_eq_ok h
  rw [values_of_requireOperand h]
  exact accepts_of_collect hcollect (isOf_of_readWords (eq_ok_of_mapError hwords)) (by simp)

end Mooring.CommandLine
