import Mooring.Proofs.Steps

/-! Kinds of stretches of steps. Where stretches of a kind make another one of it in a row, an
action takes such a stretch if each of its parts does, whatever the world answers and however it
ends. -/

namespace Mooring

open Mooring.Action

/-- A kind of stretches of steps. -/
structure Stretch where
  holds : List Step → Prop
  nil : holds []
  append : ∀ {steps rest}, holds steps → holds rest → holds (steps ++ rest)

/-- The stretches with steps of one kind only. -/
def Stretch.all (is : Step → Bool) : Stretch where
  holds steps := ∀ x ∈ steps, is x = true
  nil := by simp
  append h h' := List.forall_mem_append.mpr ⟨h, h'⟩

namespace Action

variable {σ τ α β : Type} {w : World} {kind kind' : Stretch} {inv : σ → Prop} {is : Step → Bool}

/-- An action that takes a stretch of a kind and keeps an invariant of its object. -/
def Takes (w : World) (kind : Stretch) (inv : σ → Prop) (act : Action σ α) : Prop :=
  ∀ s, inv s → Does w act s (fun steps _ s' => kind.holds steps ∧ inv s')

theorem Takes.mono {act : Action σ α} (h : Takes w kind inv act)
    (hk : ∀ steps, kind.holds steps → kind'.holds steps) : Takes w kind' inv act :=
  fun s hs => (h s hs).mono (fun steps _ _ ⟨hsteps, hs'⟩ => ⟨hk steps hsteps, hs'⟩)

theorem Takes.does {act : Action σ α} {s : σ} {post : List Step → Except Fault α → σ → Prop}
    (h : Takes w kind inv act) (hs : inv s)
    (hpost : ∀ steps r s', kind.holds steps → inv s' → post steps r s') : Does w act s post :=
  (h s hs).mono (fun steps r s' ⟨hsteps, hs'⟩ => hpost steps r s' hsteps hs')

/-! ### Single steps -/

theorem Takes.pure (a : α) : Takes w kind inv (Pure.pure a : Action σ α) :=
  fun _ hs => .pure ⟨kind.nil, hs⟩

theorem Takes.fail (fault : Fault) : Takes w kind inv (fail fault : Action σ α) :=
  fun _ hs => .fail ⟨kind.nil, hs⟩

theorem Takes.failWith (failure : Failure) :
    Takes w kind inv (failWith failure : Action σ α) := .fail _

theorem Takes.ofExcept (result : Except Problem α) :
    Takes w kind inv (ofExcept result : Action σ α) :=
  fun _ hs => .ofExcept ⟨kind.nil, hs⟩

theorem Takes.ofResult (result : Except Fault α) :
    Takes w kind inv (ofResult result : Action σ α) :=
  fun _ hs _ => ⟨[], (List.append_nil _).symm, kind.nil, hs⟩

theorem Takes.get : Takes w kind inv (get : Action σ σ) :=
  fun _ hs _ => ⟨[], (List.append_nil _).symm, kind.nil, hs⟩

theorem Takes.read : Takes w kind inv (read : Action σ World) :=
  fun _ hs _ => ⟨[], (List.append_nil _).symm, kind.nil, hs⟩

theorem Takes.modify {f : σ → σ} (h : ∀ s, inv s → inv (f s)) :
    Takes w kind inv (modify f : Action σ PUnit) :=
  fun s hs => .change ⟨kind.nil, h s hs⟩

theorem Takes.log {level : Level} {message : String} {fields : Record Value}
    (h : is (.wrote level message fields) = true) :
    Takes w (.all is) inv (log level message fields : Action σ Unit) :=
  fun _ hs => .log ⟨List.forall_mem_singleton.mpr h, hs⟩

theorem Takes.call {c : Call} (h : ∀ answer, is (.asked c answer) = true) :
    Takes w (.all is) inv (call c : Action σ c.Answer) :=
  fun _ hs => .call (fun answer _ => ⟨List.forall_mem_singleton.mpr (h answer), hs⟩)

theorem Takes.tell {c : Call} (h : ∀ answer, is (.asked c answer) = true) :
    Takes w (.all is) inv (tell c : Action σ Unit) :=
  fun _ hs j => ⟨_, j.steps_add w (.called c), List.forall_mem_singleton.mpr (h _), hs⟩

/-! ### Steps in a row -/

theorem Takes.bind {act : Action σ α} {next : α → Action σ β} (h : Takes w kind inv act)
    (hn : ∀ a, Takes w kind inv (next a)) : Takes w kind inv (act >>= next) := by
  refine fun s hs => (h s hs).bind ?_ (fun _ _ _ => id)
  rintro steps a s' ⟨hsteps, hs'⟩
  exact (hn a s' hs').mono (fun _ _ _ ⟨hrest, hlast⟩ => ⟨kind.append hsteps hrest, hlast⟩)

theorem Takes.attempt {act : Action σ α} (h : Takes w kind inv act) :
    Takes w kind inv (attempt act) := fun s hs j =>
  have ⟨steps, hsteps, hpost⟩ := h s hs j
  ⟨steps, hsteps, hpost⟩

theorem Takes.runOn {inner : τ → Prop} {act : Action τ α} (h : Takes w kind inner act)
    {object : τ} (ho : inner object) :
    Takes w kind inv (runOn object act : Action σ (Except Fault α × τ)) := fun _ hs j =>
  have ⟨steps, hsteps, hkind, _⟩ := h object ho j
  ⟨steps, hsteps, hkind, hs⟩

theorem Takes.within {inner : τ → Prop} {put : τ → σ → σ} {act : Action τ α}
    (h : Takes w kind inner act) {part : τ} (hpart : inner part)
    (hput : ∀ part s, inner part → inv s → inv (put part s)) :
    Takes w kind inv (within put part act) := fun s hs j =>
  have ⟨steps, hsteps, hkind, hpart'⟩ := h part hpart j
  ⟨steps, hsteps, hkind, hput _ s hpart' hs⟩

theorem Takes.ite {c : Prop} [Decidable c] {act act' : Action σ α} (h : Takes w kind inv act)
    (h' : Takes w kind inv act') : Takes w kind inv (if c then act else act') := by
  split
  · exact h
  · exact h'

/-! ### Values -/

/-- An action whose values are good. -/
def Yields (w : World) (good : α → Prop) (act : Action σ α) : Prop :=
  ∀ s j a s' j', act w s j = (.ok a, s', j') → good a

variable {good : α → Prop}

theorem Yields.pure {a : α} (h : good a) : Yields w good (Pure.pure a : Action σ α) := by
  rintro s j _ s' j' ⟨⟩
  exact h

theorem Yields.ofExcept {result : Except Problem α} (h : ∀ a, result = .ok a → good a) :
    Yields w good (ofExcept result : Action σ α) := by
  intro s j a s' j' hrun
  exact h a (eq_ok_of_mapError (congrArg (·.1) hrun))

theorem Yields.bind {good' : β → Prop} {act : Action σ β} {next : β → Action σ α}
    (h : Yields w good' act) (hn : ∀ b, good' b → Yields w good (next b)) :
    Yields w good (act >>= next) := by
  intro s j a s' j' hrun
  rcases run_bind_cases hrun with ⟨b, s₁, j₁, hact, hnext⟩ | ⟨fault, -, hfault⟩
  · exact hn b (h s j b s₁ j₁ hact) s₁ j₁ a s' j' hnext
  · cases hfault

/-- Only the last of two actions in a row yields a value. -/
theorem Yields.last {act : Action σ β} {next : β → Action σ α}
    (hn : ∀ b, Yields w good (next b)) : Yields w good (act >>= next) :=
  have anything : Yields w (fun _ => True) act := fun _ _ _ _ _ _ => trivial
  anything.bind (fun b _ => hn b)

theorem Yields.attempt {act : Action σ α} (h : Yields w good act) :
    Yields w (fun ended => ∀ a, ended = .ok a → good a) (attempt act) := by
  rintro s j _ s' j' ⟨⟩ a ha
  exact h s j a _ _ (Prod.ext ha rfl)

theorem Yields.ite {c : Prop} [Decidable c] {act act' : Action σ α} (h : Yields w good act)
    (h' : Yields w good act') : Yields w good (if c then act else act') := by
  split
  · exact h
  · exact h'

/-- What an action yields may be known to the next one. -/
theorem Takes.known {act : Action σ α} {next : α → Action σ β} (h : Takes w kind inv act)
    (hy : Yields w good act) (hn : ∀ a, good a → Takes w kind inv (next a)) :
    Takes w kind inv (act >>= next) := by
  intro s hs j
  rcases e : act w s j with ⟨fault | a, s', j'⟩
  · obtain ⟨steps, hsteps, hkind⟩ := (h s hs).run e
    rw [run_bind_error e]
    exact ⟨steps, hsteps, hkind⟩
  · obtain ⟨steps, hsteps, hkind, hs'⟩ := (h s hs).run e
    obtain ⟨rest, hrest, hkind', hlast⟩ := hn a (hy s j a s' j' e) s' hs' j'
    rw [run_bind_ok e]
    exact ⟨steps ++ rest, by rw [hrest, hsteps, List.append_assoc], kind.append hkind hkind', hlast⟩

end Action

end Mooring
