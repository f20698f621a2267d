import Mooring.Journal

/-! Operations and their surroundings. A `World` answers every call, knowing all that happened
before it, and takes or refuses what is to be shown; an `Action` is an operation on an object that
may make calls, change the object and fail. A failed action keeps what it did to the object and to
the journal. -/

namespace Mooring

/-- The answer to a call and the time it took. -/
structure Reply (α : Type) where
  delay : Nat := 0
  result : Except Problem α

structure World where
  platform : String
  environment : Record String
  /-- The identifier of this session. -/
  session : String
  /-- The program that runs a module of this program in a process of its own. -/
  interpreter : String
  /-- The sizes of the pieces in which the input arrives, until it ends. -/
  input : List Nat
  fileExists : String → Bool
  fileBytes : String → Except Problem (List UInt8)
  answer : List Event → (call : Call) → Reply call.Answer
  /-- What comes of handing something to the console, which may refuse it. -/
  console : List Event → Shown → Except Problem Unit := fun _ _ => .ok ()

def Action (σ α : Type) : Type := World → σ → Journal → Except Fault α × σ × Journal

namespace Action

variable {σ τ α β : Type}

instance : Monad (Action σ) where
  pure a := fun _ s j => (.ok a, s, j)
  bind act next := fun w s j =>
    match act w s j with
    | (.ok a, s, j) => next a w s j
    | (.error fault, s, j) => (.error fault, s, j)

instance : MonadStateOf σ (Action σ) where
  get := fun _ s j => (.ok s, s, j)
  set s := fun _ _ j => (.ok (), s, j)
  modifyGet f := fun _ s j => let (a, s) := f s; (.ok a, s, j)

instance : MonadReaderOf World (Action σ) where
  read := fun w s j => (.ok w, s, j)

/-- Ends in a fault. -/
def fail (fault : Fault) : Action σ α := fun _ s j => (.error fault, s, j)

/-- Ends in a failure of the program itself. -/
def failWith (failure : Failure) : Action σ α := fail (.ofFailure failure)

def ofExcept (result : Except Problem α) : Action σ α :=
  fun _ s j => (result.mapError Fault.of, s, j)

/-- Ends as another action did. -/
def ofResult (result : Except Fault α) : Action σ α := fun _ s j => (result, s, j)

/-- How the action ends, as a value. -/
def attempt (act : Action σ α) : Action σ (Except Fault α) := fun w s j =>
  let (result, s, j) := act w s j
  (.ok result, s, j)

/-- Carries out an action on another object: how it ended, and the object after it. -/
def runOn (object : τ) (act : Action τ α) : Action σ (Except Fault α × τ) := fun w s j =>
  let (result, object, j) := act w object j
  (.ok (result, object), s, j)

/-- Carries out an action on a part of this object, and ends as it does. -/
def within (put : τ → σ → σ) (part : τ) (act : Action τ α) : Action σ α := fun w s j =>
  let (result, part, j) := act w part j
  (result, put part s, j)

/-- Makes a call: it is entered in the journal, then answered. -/
def call (c : Call) : Action σ c.Answer := fun w s j =>
  let reply := w.answer j.events c
  (reply.result.mapError Fault.of, s, (j.add (.called c)).advance reply.delay)

/-- Enters a call that cannot fail and is not answered. -/
def tell (c : Call) : Action σ Unit := fun _ s j => (.ok (), s, j.add (.called c))

def log (level : Level) (message : String) (fields : Record Value := []) : Action σ Unit :=
  fun _ s j => (.ok (), s, j.add (.logged level message fields))

/-- Hands something to the console: it is entered in the journal, then taken or refused. -/
def print (what : Shown) : Action σ Unit := fun w s j =>
  ((w.console j.events what).mapError Fault.of, s, j.add (.shown what))

def clock : Action σ Nat := fun _ s j => (.ok j.clock, s, j)

/-- Waits; the time has passed once the wait is over. -/
def sleep (milliseconds : Nat) : Action σ Unit := fun w s j =>
  match call (.sleep milliseconds) w s j with
  | (.ok _, s, j) => (.ok (), s, j.advance milliseconds)
  | (.error fault, s, j) => (.error fault, s, j)

def onClient (client : Client) (c : ClientCall) : Action σ c.Answer := call (.client client c)

/-! ### Time

An action never turns the clock back. -/

def Forward (act : Action σ α) : Prop := ∀ w s j, j.clock ≤ (act w s j).2.2.clock

theorem Forward.pure (a : α) : Forward (Pure.pure a : Action σ α) := fun _ _ _ => Nat.le_refl _

theorem Forward.fail (fault : Fault) : Forward (fail fault : Action σ α) :=
  fun _ _ _ => Nat.le_refl _

theorem Forward.ofExcept (result : Except Problem α) : Forward (ofExcept result : Action σ α) :=
  fun _ _ _ => Nat.le_refl _

theorem Forward.call (c : Call) : Forward (call c : Action σ c.Answer) :=
  fun _ _ _ => Nat.le_add_right _ _

theorem Forward.bind {act : Action σ α} {next : α → Action σ β} (h : Forward act)
    (hn : ∀ a, Forward (next a)) : Forward (act >>= next) := by
  intro w s j
  have h := h w s j
  show j.clock ≤ (match act w s j with
    | (.ok a, s, j) => next a w s j
    | (.error fault, s, j) => (.error fault, s, j)).2.2.clock
  split
  · next a s' j' e => rw [e] at h; exact Nat.le_trans h (hn a w s' j')
  · next fault s' j' e => rw [e] at h; exact h

theorem Forward.attempt {act : Action σ α} (h : Forward act) : Forward (attempt act) :=
  fun w s j => h w s j

/-- A wait that is over has taken its time. -/
theorem clock_lt_of_sleep {n : Nat} {w : World} {s s' : σ} {j j' : Journal} (hn : 0 < n)
    (h : sleep n w s j = (.ok (), s', j')) : j.clock < j'.clock := by
  simp only [sleep, Action.call] at h
  split at h
  · next e =>
    simp only [Prod.mk.injEq] at e h
    obtain ⟨-, -, rfl⟩ := e
    obtain ⟨-, -, rfl⟩ := h
    simp only [Journal.clock_advance, Journal.clock_add]
    omega
  · simp at h

end Action

end Mooring
