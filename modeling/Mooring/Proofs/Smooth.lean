import Mooring.Proofs.Stretch

/-! Smooth runs. What an action comes to where each of its steps is fine follows from what its parts
come to there. Of other runs nothing is said but that they are runs, so a rule asks of what follows
a part that it goes on from every value of that part. -/

namespace Mooring

open Mooring.Action

/-- A step at which no call fails. -/
def Step.Succeeds : Step → Prop
  | .asked _ (.error _) => False
  | _ => True

theorem Event.forall_mem_stepsIn {w : World} {p : Step → Prop}
    (h : ∀ past e, p (Event.step w past e)) (past es : List Event) :
    ∀ x ∈ Event.stepsIn w past es, p x := by
  induction es generalizing past with
  | nil => simp [Event.stepsIn]
  | cons e es ih => exact List.forall_mem_cons.mpr ⟨h past e, ih _⟩

/-- A result that is a value of a kind. -/
def IsValue {α : Type} (kind : α → Prop) (r : Except Fault α) : Prop := ∃ a, r = .ok a ∧ kind a

theorem IsValue.absurd {α : Type} {kind : α → Prop} {fault : Fault} {p : Prop}
    (h : IsValue kind (.error fault)) : p := by
  obtain ⟨_, ⟨⟩, -⟩ := h

namespace Action

variable {σ α β : Type} {w : World} {fine : Step → Prop} {good : Except Fault α → Prop}

/-- An action whose result is good where all of its steps are fine. -/
def Attains (w : World) (fine : Step → Prop) (good : Except Fault α → Prop) (act : Action σ α) :
    Prop :=
  ∀ s, Does w act s (fun steps r _ => (∀ x ∈ steps, fine x) → good r)

theorem Attains.mono {good' : Except Fault α → Prop} {act : Action σ α}
    (h : Attains w fine good act) (hgood : ∀ r, good r → good' r) : Attains w fine good' act :=
  fun s => (h s).mono (fun _ _ _ hr hfine => hgood _ (hr hfine))

/-- Where any result is good, it is enough that the action is carried out. -/
theorem Attains.of_takes {kind : Stretch} {act : Action σ α}
    (h : Takes w kind (fun _ => True) act) (hgood : ∀ r, good r) : Attains w fine good act :=
  fun _ => h.does trivial (fun _ r _ _ _ _ => hgood r)

/-! ### Single steps -/

theorem Attains.pure {a : α} (h : good (.ok a)) :
    Attains w fine good (Pure.pure a : Action σ α) :=
  fun _ => .pure (fun _ => h)

theorem Attains.fail {fault : Fault} (h : good (.error fault)) :
    Attains w fine good (fail fault : Action σ α) :=
  fun _ => .fail (fun _ => h)

theorem Attains.log {level : Level} {message : String} {fields : Record Value}
    {good : Except Fault Unit → Prop} (h : good (.ok ())) :
    Attains w fine good (log level message fields : Action σ Unit) :=
  fun _ => .log (fun _ => h)

theorem Attains.call {c : Call} {kind : c.Answer → Prop} (hfine : ∀ x, fine x → x.Succeeds)
    (h : ∀ a, fine (.asked c (.ok a)) → kind a) :
    Attains w fine (IsValue kind) (call c : Action σ c.Answer) := by
  refine fun _ => .call (fun answer _ hall => ?_)
  have hasked : fine (.asked c answer) := hall _ (List.mem_singleton_self _)
  cases answer with
  | ok a => exact ⟨a, rfl, h a hasked⟩
  | error problem => exact (hfine _ hasked).elim

/-! ### Steps in a row -/

theorem Attains.bind {act : Action σ β} {next : β → Action σ α} {kind : β → Prop}
    (h : Attains w fine (IsValue kind) act)
    (hn : ∀ b, Attains w fine (fun r => kind b → good r) (next b)) :
    Attains w fine good (act >>= next) := by
  -- the value that the next action goes on from is known only where the first steps are fine
  refine fun s => (h s).bind (fun steps b s' hb => ?_) (fun steps fault s' hfault hall => ?_)
  · refine (hn b s').mono (fun rest r _ hr hall => ?_)
    rw [List.forall_mem_append] at hall
    obtain ⟨_, ⟨⟩, hkind⟩ := hb hall.1
    exact hr hall.2 hkind
  · exact (hfault hall).absurd

/-- Where any value will do for what follows, it is what follows that counts. -/
theorem Attains.last {act : Action σ β} {next : β → Action σ α}
    (h : Attains w fine (IsValue (fun _ => True)) act) (hn : ∀ b, Attains w fine good (next b)) :
    Attains w fine good (act >>= next) :=
  h.bind (fun b => (hn b).mono (fun _ hr _ => hr))

theorem Attains.afterLog {level : Level} {message : String} {fields : Record Value}
    {next : Unit → Action σ α} (h : Attains w fine good (next ())) :
    Attains w fine good (Action.log level message fields >>= next) :=
  .last (.log ⟨(), rfl, trivial⟩) (fun _ => h)

theorem Attains.attempt {act : Action σ α} (h : Attains w fine good act) :
    Attains w fine (IsValue good) (attempt act) := fun s j =>
  have ⟨steps, hsteps, hgood⟩ := h s j
  ⟨steps, hsteps, fun hall => ⟨_, rfl, hgood hall⟩⟩

theorem Attains.afterRead {next : World → Action σ α} (h : Attains w fine good (next w)) :
    Attains w fine good (read >>= next) := h

theorem Attains.ite {c : Prop} [Decidable c] {act act' : Action σ α}
    (h : c → Attains w fine good act) (h' : ¬ c → Attains w fine good act') :
    Attains w fine good (if c then act else act') := by
  split
  · next hc => exact h hc
  · next hc => exact h' hc

end Action

end Mooring
