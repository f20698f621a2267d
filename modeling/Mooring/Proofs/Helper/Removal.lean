import Mooring.Proofs.Helper.Bracket
import Mooring.Proofs.Plain

/-! What is told of a container that could not be removed. A refusal of the daemon is told as the
failure that it is for the container; any other trouble goes on as it came, and names no
container. -/

namespace Mooring

open Mooring.Action

variable {σ : Type}

/-- A fault that names a container which was not removed, with the problem that led to it. -/
def Fault.TellsOf (fault : Fault) (id : ResourceId) (problem : Problem) : Prop :=
  (∃ reason, fault.problem = .failure (.containerCleanup id reason)) ∧ fault.cause = some problem

/-- A removal that is accounted for: it ends well where the container is gone, and tells of it
where the container is left behind. -/
inductive AccountedFor (id : ResourceId) : Except Problem Unit → Except Fault Unit → Prop
  | gone {answer : Except Problem Unit} (h : Gone answer) : AccountedFor id answer (.ok ())
  | told {problem : Problem} {fault : Fault} (h : ¬ Gone (.error problem))
    (hf : fault.TellsOf id problem) : AccountedFor id (.error problem) (.error fault)

theorem leftover_tellsOf_iff (id : ResourceId) (problem : Problem) :
    (leftover id problem).TellsOf id problem ↔ problem.isRefusal = true := by
  unfold leftover
  split
  · next h => exact iff_of_true ⟨⟨_, rfl⟩, rfl⟩ h
  · next h => exact iff_of_false (fun ⟨_, hcause⟩ => by cases hcause) h

section Outcome

variable {id : ResourceId} {answer : Except Problem Unit} {result : Except Fault Unit}

theorem Removes.ok_iff (h : Removes id answer result) : result = .ok () ↔ Gone answer := by
  cases h with
  | gone hgone => exact iff_of_true rfl hgone
  | left hleft => exact iff_of_false (fun h => by cases h) hleft

theorem Removes.accountedFor_iff (h : Removes id answer result) :
    AccountedFor id answer result ↔
      ∀ problem, answer = .error problem → problem.isRefusal = true := by
  cases h with
  | gone hgone =>
    refine iff_of_true (.gone hgone) ?_
    rintro problem rfl
    exact isRefusal_of_gone hgone
  | @left problem hleft =>
    constructor
    · rintro (_ | ⟨-, htells⟩) _ ⟨⟩
      exact (leftover_tellsOf_iff id problem).mp htells
    · intro hrefusal
      exact .told hleft ((leftover_tellsOf_iff id problem).mpr (hrefusal problem rfl))

end Outcome

/-- A removal is one call, and it ends well exactly if the container is gone. Where it is left
behind, the fault tells of the container and of the daemon's refusal, if it was one; any other
trouble is the fault itself. So a removal is accounted for exactly if the daemon did not fail to
answer it. -/
theorem removal_of_answer (w : World) (client : Client) (id : ResourceId) (s : σ) (j : Journal) :
    ∃ answer result j',
      answer = (w.answer j.events (.client client (.removeContainer id))).result ∧
      removeContainer client id w s j = (result, s, j') ∧
      (j.afterCall w (.client client (.removeContainer id))).Grows Event.isLogged j' ∧
      (result = .ok () ↔ Gone answer) ∧
      (∀ problem, answer = .error problem → ¬ Gone answer →
        (problem.isRefusal = true → result =
          .error (.because (.containerCleanup id (some problem.message)) (.of problem))) ∧
        (problem.isRefusal = false → result = .error (.of problem))) ∧
      (AccountedFor id answer result ↔
        ∀ problem, answer = .error problem → problem.isRefusal = true) := by
  obtain ⟨result, j', hrun, hremoves, hgrows⟩ := removeContainer_cases w client id s j
  refine ⟨_, result, j', rfl, hrun, hgrows, hremoves.ok_iff, ?_, hremoves.accountedFor_iff⟩
  intro problem hanswer hleft
  rw [hremoves.eq_of_left hanswer hleft]
  exact ⟨fun h => by rw [leftover, if_pos h], fun h => by simp [leftover, h]⟩

/-- A connection that breaks down. -/
def aborted : Problem := .os .connection none "Connection aborted." none

/-- A world in which the connection breaks down when a container is to be removed. -/
def abortingWorld : World :=
  .plain (fun
    | .client _ (.removeContainer _) => some aborted
    | _ => none)

/-- The container is left behind, and the fault does not say which one it is. -/
theorem removal_aborted :
    abortingWorld.Calm ∧ ¬ Gone (.error aborted) ∧
    ∃ j', removeContainer "own" "helper" abortingWorld () {} =
      (.error (.of aborted), (), j') ∧
    ¬ AccountedFor "helper" (.error aborted) (.error (.of aborted)) := by
  refine ⟨World.calm_plain ?_, ?_, _, rfl, ?_⟩
  · intro c problem h
    split at h <;> cases h
    rfl
  · rintro (h | ⟨h, -⟩) <;> cases h
  · rintro (_ | ⟨-, -, hcause⟩)
    cases hcause

end Mooring
