import Mooring.Agent.Reaper
import Mooring.Proofs.Steps

/-! Loops by rounds. A loop does one round after another until one ends it, and a round that does
not leaves less time to a deadline. Where every round ends the loop as it should, or goes before any
rounds that do, the loop ends as it should; so what the loops of the reaper do is shown of one round
of theirs. -/

namespace Mooring

namespace Action

variable {σ ι β : Type} {w : World} {deadline : Nat} {round : ι → Action σ (β ⊕ ι)}
  {loop : ι → Action σ β} {s s' : σ} {j j' : Journal}

/-- A loop of rounds: one that does not end it leads to the next, closer to the deadline. -/
structure Rounds (deadline : Nat) (round : ι → Action σ (β ⊕ ι)) (loop : ι → Action σ β) :
    Prop where
  unfold : ∀ i, loop i = round i >>= Sum.elim pure loop
  closer : ∀ {i i' w s s' j j'}, round i w s j = (.ok (.inr i'), s', j') →
    deadline - j'.clock < deadline - j.clock

theorem Rounds.induct (h : Rounds deadline round loop) {motive : ι → σ → Journal → Prop}
    (step : ∀ i s j, (∀ i' s' j', round i w s j = (.ok (.inr i'), s', j') → motive i' s' j') →
      motive i s j) (i : ι) (s : σ) (j : Journal) : motive i s j := by
  induction hleft : deadline - j.clock using Nat.strongRecOn generalizing i s j with
  | _ left ih =>
    subst hleft
    exact step i s j fun i' s' j' hround => ih _ (h.closer hround) i' s' j' rfl

/-- What comes of one round, so that `post` may come of the loop: the round ends it so, or goes
before the rounds that follow. -/
inductive Carries (post : σ → List Step → Except Fault β → σ → Prop) (s : σ) :
    List Step → Except Fault (β ⊕ ι) → σ → Prop
  | ends {steps : List Step} {b : β} {s' : σ} (h : post s steps (.ok b) s') :
    Carries post s steps (.ok (.inl b)) s'
  | fails {steps : List Step} {fault : Fault} {s' : σ} (h : post s steps (.error fault) s') :
    Carries post s steps (.error fault) s'
  | next {steps : List Step} {i : ι} {s' : σ}
    (h : ∀ rest r s'', post s' rest r s'' → post s (steps ++ rest) r s'') :
    Carries post s steps (.ok (.inr i)) s'

theorem Rounds.does (h : Rounds deadline round loop)
    (post : σ → List Step → Except Fault β → σ → Prop)
    (hround : ∀ i s, Does w (round i) s (Carries post s)) (i : ι) (s : σ) :
    Does w (loop i) s (post s) := by
  intro j
  induction i, s, j using h.induct (w := w) with
  | step i s j ih =>
    rw [h.unfold]
    rcases hrun : round i w s j with ⟨r, s', j'⟩
    obtain ⟨steps, hsteps, hcarries⟩ := (hround i s).run hrun
    cases hcarries with
    | ends hpost =>
      rw [run_bind_ok hrun]
      exact ⟨steps, hsteps, hpost⟩
    | fails hpost =>
      rw [run_bind_error hrun]
      exact ⟨steps, hsteps, hpost⟩
    | next hnext =>
      obtain ⟨rest, hrest, hpost⟩ := ih _ s' j' hrun
      rw [run_bind_ok hrun]
      refine ⟨steps ++ rest, ?_, hnext rest _ _ hpost⟩
      rw [← List.append_assoc, ← hsteps]
      exact hrest

/-- A round that ends in a rest takes time. -/
theorem clock_lt_of_rest {n : Nat} {i i' : ι} (hn : 0 < n)
    (h : (sleep n >>= fun _ => pure (.inr i) : Action σ (β ⊕ ι)) w s j = (.ok (.inr i'), s', j')) :
    j.clock < j'.clock := by
  obtain ⟨u, rested, now, slept, h⟩ | ⟨fault, -, h⟩ := run_bind_cases h
  · cases h
    exact clock_lt_of_sleep hn slept
  · cases h

end Action

namespace Reaper

open Mooring.Action

variable {σ : Type}

/-- A look for the port, with the rest after it if another is to come. -/
def waitRound (k : Client) (id : ResourceId) (deadline : Nat) (_ : Unit) :
    Action σ (Int ⊕ Unit) := do
  match ← lookForPort k id with
  | some port => return .inl port
  | none =>
    if deadline ≤ (← clock) then
      failWith (.resourceManager "Reaper container did not publish its port in time")
    else
      sleep 100
      return .inr ()

theorem rounds_waitForPort (k : Client) (id : ResourceId) (deadline : Nat) :
    Rounds deadline (waitRound k id deadline)
      (fun _ => (waitForPort k id deadline : Action σ Int)) where
  unfold _ := by
    funext w s j
    rw [waitForPort, waitRound]
    split
    · next looked => rw [run_bind_error (run_bind_error looked)]
    · next looked =>
      rw [run_bind, run_bind_ok looked]
      rfl
    · next looked =>
      rw [run_bind, run_bind_ok looked]
      dsimp only
      rw [run_bind_ok run_clock]
      split
      · rfl
      · split
        · next slept => rw [run_bind_error slept]
        · next slept =>
          rw [run_bind_ok slept]
          rfl
  closer := by
    rintro _ _ w s s' j j' h
    obtain ⟨found, seen, later, looked, h⟩ | ⟨fault, -, h⟩ := run_bind_cases h
    · have hlooked : j.clock ≤ later.clock := by
        simpa only [looked] using forward_lookForPort k id w s j
      cases found with
      | some port => cases h
      | none =>
        dsimp only at h
        rw [run_bind_ok run_clock] at h
        split at h
        · cases h
        · have hrest := clock_lt_of_rest (by decide) h
          omega
    · cases h

/-- An attempt to register, with the rest after it if another is to come. -/
def registerRound (host : String) (port : Int) (line : String) (deadline : Nat)
    (reason : Option String) : Action σ (Socket ⊕ Option String) := do
  if deadline ≤ (← clock) then failWith (notRegistered host port reason)
  else
    match ← registerOnce host port line with
    | .acknowledged socket => return .inl socket
    | .refused reason =>
      sleep 500
      return .inr (some reason)

theorem rounds_register (host : String) (port : Int) (line : String) (deadline : Nat) :
    Rounds deadline (registerRound host port line deadline)
      (register host port line deadline : Option String → Action σ Socket) where
  unfold reason := by
    funext w s j
    rw [register, registerRound, run_bind, run_bind_ok run_clock]
    split
    · rfl
    · split
      · next tried => rw [run_bind_error tried]
      · next tried =>
        rw [run_bind_ok tried]
        rfl
      · next tried =>
        rw [run_bind_ok tried]
        dsimp only
        split
        · next slept => rw [run_bind_error slept]
        · next slept =>
          rw [run_bind_ok slept]
          rfl
  closer := by
    rintro reason _ w s s' j j' h
    rw [registerRound, run_bind_ok run_clock] at h
    split at h
    · cases h
    · obtain ⟨tried, seen, later, hrun, h⟩ | ⟨fault, -, h⟩ := run_bind_cases h
      · have htried : j.clock ≤ later.clock := by
          simpa only [hrun] using forward_registerOnce host port line w s j
        cases tried with
        | acknowledged socket => cases h
        | refused refusal =>
          have hrest := clock_lt_of_rest (by decide) h
          omega
      · cases h

end Reaper

end Mooring
