import Mooring.Action

/-! Runs of actions, one step at a time. Each step is an equation on the world, the object and the
journal it starts from; two actions in a row either fail in the first or go on from where the first
has come. -/

namespace Mooring

/-- The journal after a call that the world has answered. -/
def Journal.afterCall (j : Journal) (w : World) (c : Call) : Journal :=
  (j.add (.called c)).advance (w.answer j.events c).delay

@[simp] theorem Journal.events_afterCall (j : Journal) (w : World) (c : Call) :
    (j.afterCall w c).events = j.events ++ [.called c] := rfl

namespace Action

variable {σ τ α β : Type} {w : World} {s s' : σ} {j j' : Journal}

/-! ### Single steps -/

@[simp] theorem run_pure (a : α) : (pure a : Action σ α) w s j = (.ok a, s, j) := rfl

@[simp] theorem run_get : (get : Action σ σ) w s j = (.ok s, s, j) := rfl

@[simp] theorem run_modify (f : σ → σ) :
    (modify f : Action σ PUnit) w s j = (.ok (), f s, j) := rfl

@[simp] theorem run_read : (read : Action σ World) w s j = (.ok w, s, j) := rfl

@[simp] theorem run_fail (fault : Fault) :
    (fail fault : Action σ α) w s j = (.error fault, s, j) := rfl

@[simp] theorem run_failWith (failure : Failure) :
    (failWith failure : Action σ α) w s j = (.error (.ofFailure failure), s, j) := rfl

@[simp] theorem run_ofExcept (result : Except Problem α) :
    (ofExcept result : Action σ α) w s j = (result.mapError Fault.of, s, j) := rfl

@[simp] theorem run_ofResult (result : Except Fault α) :
    (ofResult result : Action σ α) w s j = (result, s, j) := rfl

@[simp] theorem run_log (level : Level) (message : String) (fields : Record Value) :
    (log level message fields : Action σ Unit) w s j =
      (.ok (), s, j.add (.logged level message fields)) := rfl

@[simp] theorem run_print (what : Shown) :
    (print what : Action σ Unit) w s j =
      ((w.console j.events what).mapError Fault.of, s, j.add (.shown what)) := rfl

@[simp] theorem run_tell (c : Call) :
    (tell c : Action σ Unit) w s j = (.ok (), s, j.add (.called c)) := rfl

@[simp] theorem run_clock : (clock : Action σ Nat) w s j = (.ok j.clock, s, j) := rfl

@[simp] theorem run_call (c : Call) :
    (call c : Action σ c.Answer) w s j =
      ((w.answer j.events c).result.mapError Fault.of, s, j.afterCall w c) := rfl

@[simp] theorem run_onClient (client : Client) (c : ClientCall) :
    (onClient client c : Action σ c.Answer) w s j =
      ((w.answer j.events (.client client c)).result.mapError Fault.of, s,
        j.afterCall w (.client client c)) := rfl

theorem run_call_ok {c : Call} {a : c.Answer} (h : (w.answer j.events c).result = .ok a) :
    (call c : Action σ c.Answer) w s j = (.ok a, s, j.afterCall w c) := by
  rw [run_call, h]
  rfl

theorem run_call_error {c : Call} {problem : Problem}
    (h : (w.answer j.events c).result = .error problem) :
    (call c : Action σ c.Answer) w s j = (.error (.of problem), s, j.afterCall w c) := by
  rw [run_call, h]
  rfl

@[simp] theorem run_attempt (act : Action σ α) :
    (attempt act) w s j = (.ok (act w s j).1, (act w s j).2) := rfl

@[simp] theorem run_runOn (object : τ) (act : Action τ α) :
    (runOn object act : Action σ (Except Fault α × τ)) w s j =
      (.ok ((act w object j).1, (act w object j).2.1), s, (act w object j).2.2) := rfl

@[simp] theorem run_within (put : τ → σ → σ) (part : τ) (act : Action τ α) :
    (within put part act) w s j =
      ((act w part j).1, put (act w part j).2.1 s, (act w part j).2.2) := rfl

@[simp] theorem toOption_mapError (f : Problem → Fault) (result : Except Problem α) :
    (result.mapError f).toOption = result.toOption := by
  cases result <;> rfl

/-- Where a reading in two parts has come from. -/
theorem exists_of_bind_eq_ok {ε : Type} {x : Except ε α} {next : α → Except ε β} {b : β}
    (h : x >>= next = .ok b) : ∃ a, x = .ok a ∧ next a = .ok b := by
  cases x with
  | error e => cases h
  | ok a => exact ⟨a, rfl, h⟩

theorem eq_ok_of_mapError {ε δ : Type} {f : ε → δ} {x : Except ε α} {a : α}
    (h : x.mapError f = .ok a) : x = .ok a := by
  cases x with
  | error e => cases h
  | ok a => cases h; rfl

/-! ### Steps in a row -/

theorem run_bind (act : Action σ α) (next : α → Action σ β) :
    (act >>= next) w s j =
      match act w s j with
      | (.ok a, s, j) => next a w s j
      | (.error fault, s, j) => (.error fault, s, j) := rfl

theorem run_bind_ok {act : Action σ α} {next : α → Action σ β} {a : α}
    (h : act w s j = (.ok a, s', j')) : (act >>= next) w s j = next a w s' j' := by
  rw [run_bind, h]

theorem run_bind_error {act : Action σ α} {next : α → Action σ β} {fault : Fault}
    (h : act w s j = (.error fault, s', j')) :
    (act >>= next) w s j = (.error fault, s', j') := by
  rw [run_bind, h]

/-- Where a run of two actions in a row has come from. -/
theorem run_bind_cases {act : Action σ α} {next : α → Action σ β} {r : Except Fault β}
    (h : (act >>= next) w s j = (r, s', j')) :
    (∃ a s₁ j₁, act w s j = (.ok a, s₁, j₁) ∧ next a w s₁ j₁ = (r, s', j')) ∨
      ∃ fault, act w s j = (.error fault, s', j') ∧ r = .error fault := by
  rw [run_bind] at h
  rcases e : act w s j with ⟨_ | a, s₁, j₁⟩
  · simp only [e, Prod.mk.injEq] at h
    obtain ⟨rfl, rfl, rfl⟩ := h
    exact .inr ⟨_, rfl, rfl⟩
  · simp only [e] at h
    exact .inl ⟨a, s₁, j₁, rfl, h⟩

/-- Where a result of two actions in a row has come from. -/
theorem exists_of_run_bind_ok {act : Action σ α} {next : α → Action σ β} {b : β}
    (h : (act >>= next) w s j = (.ok b, s', j')) :
    ∃ a s₁ j₁, act w s j = (.ok a, s₁, j₁) ∧ next a w s₁ j₁ = (.ok b, s', j') := by
  rcases run_bind_cases h with hok | ⟨_, -, ⟨⟩⟩
  exact hok

instance : LawfulMonad (Action σ) := .mk' (Action σ)
  (fun act => by
    funext w s j
    show (act >>= pure) w s j = act w s j
    rcases e : act w s j with ⟨_ | a, s', j'⟩
    · exact run_bind_error e
    · exact run_bind_ok e)
  (fun _ _ => rfl)
  (fun act _ _ => by
    funext w s j
    rcases e : act w s j with ⟨_ | a, s', j'⟩
    · rw [run_bind_error e]
      exact run_bind_error (run_bind_error e)
    · rw [run_bind_ok e, run_bind, run_bind_ok e]
      rfl)

end Action

/-! ### Calm worlds -/

/-- Nothing that comes of the world is an interrupt; it may be any other trouble. -/
structure World.Calm (w : World) : Prop where
  answers : ∀ events call problem,
    (w.answer events call).result = .error problem → problem.isException = true
  files : ∀ path problem, w.fileBytes path = .error problem → problem.isException = true
  console : ∀ events what problem,
    w.console events what = .error problem → problem.isException = true

end Mooring
