import Mooring.Agent
import Mooring.DiskSpace
import Mooring.Proofs.Agent.Rounds
import Mooring.Proofs.Trace

/-! Actions that stand aside of the connection: they may call and write whatever else they like,
but they ask no route for anything, open and close no client, and in a calm world end in no
interrupt. All work with containers and agents is of this kind. -/

namespace Mooring

/-- A fault that can occur in a world: in a calm one it is no interrupt. -/
def World.Allows (w : World) (fault : Fault) : Prop :=
  w.Calm → fault.problem.isException = true

theorem World.allows_of_isException {w : World} {fault : Fault}
    (h : fault.problem.isException = true) : w.Allows fault := fun _ => h

theorem World.allows_of_mapError {α : Type} {w : World} {r : Except Problem α} {fault : Fault}
    (hr : ∀ problem, r = .error problem → w.Calm → problem.isException = true)
    (h : r.mapError Fault.of = .error fault) : w.Allows fault := by
  cases r with
  | ok a => cases h
  | error problem =>
    cases h
    exact hr problem rfl

theorem World.allows_of_answer {w : World} {events : List Event} {c : Call} {fault : Fault}
    (h : (w.answer events c).result.mapError Fault.of = .error fault) : w.Allows fault :=
  allows_of_mapError (fun problem hr hw => hw.answers events c problem hr) h

theorem World.allows_of_console {w : World} {events : List Event} {what : Shown} {fault : Fault}
    (h : (w.console events what).mapError Fault.of = .error fault) : w.Allows fault :=
  allows_of_mapError (fun problem hr hw => hw.console events what problem hr) h

/-! ### Readings

What the program reads out of an answer can be wrong, but it is never an interrupt. -/

/-- A reading that is right, or wrong in a way that a handler of failures handles. -/
def Harmless {α : Type} (result : Except Problem α) : Prop :=
  ∀ problem, result = .error problem → problem.isException = true

namespace Harmless

variable {α β ε : Type}

theorem ok (a : α) : Harmless (.ok a) := fun _ h => by cases h

theorem error {problem : Problem} (h : problem.isException = true) :
    Harmless (.error problem : Except Problem α) := fun _ e => by cases e; exact h

theorem mapError {f : ε → Problem} (h : ∀ e, (f e).isException = true) (result : Except ε α) :
    Harmless (result.mapError f) := by
  cases result with
  | ok a => exact ok a
  | error e => exact error (h e)

theorem bind {result : Except Problem α} {next : α → Except Problem β} (h : Harmless result)
    (hn : ∀ a, Harmless (next a)) : Harmless (result >>= next) := by
  cases result with
  | ok a => exact hn a
  | error problem => exact error (h problem rfl)

theorem toInt (v : Value) : Harmless v.toInt := by
  cases v with
  | text s => exact mapError (fun _ => rfl) _
  | bool b => exact ok _
  | int n => exact ok _
  | float x => exact ok _
  | null => exact error rfl
  | list items => exact error rfl
  | object entries => exact error rfl

theorem table (v : Value) : Harmless v.table := by
  cases v with
  | object entries => exact ok entries
  | _ => exact error rfl

theorem holds (word : String) (v : Value) : Harmless (v.holds word) := by
  cases v with
  | text s => exact ok _
  | list items => exact ok _
  | object entries => exact ok _
  | _ => exact error rfl

theorem publishedPort? (ports : Value) : Harmless (Reaper.publishedPort? ports) := by
  refine bind (mapError (fun _ => rfl) _) (fun bound => ?_)
  split
  · exact ok none
  · refine bind (mapError (fun _ => rfl) _) (fun binding => ?_)
    refine bind (mapError (fun _ => rfl) _) (fun hostPort => ?_)
    exact bind (toInt hostPort) (fun n => ok (some n))

theorem daemon (info version : Value) : Harmless (Daemon.read info version) := by
  refine bind (table version) (fun _ => bind (table info) (fun _ => ?_))
  exact bind (toInt _) (fun _ => ok _)

theorem runsWindows (d : Daemon) : Harmless d.runsWindows := by
  refine bind (holds _ _) (fun stores => ?_)
  split
  · exact ok true
  · exact holds _ _

theorem select (daemon : Daemon) (client : Client) (host : String) (settings : Settings) :
    Harmless (Agent.select daemon client host settings) := by
  refine bind (runsWindows daemon) (fun windows => ?_)
  split
  · exact ok _
  · exact ok _

end Harmless

/-! ### Actions -/

namespace Action

variable {σ τ α β ρ : Type} {w : World} {view : σ → ρ}

/-- An ending that is reached aside of the connection, with the object as it was so far as `view`
shows it. -/
structure EndsAside (w : World) (view : σ → ρ) (s : σ) (j : Journal)
    (ending : Except Fault α × σ × Journal) : Prop where
  aside : j.Aside ending.2.2
  kept : view ending.2.1 = view s
  allowed : ∀ fault, ending.1 = .error fault → w.Allows fault

theorem EndsAside.ok (a : α) {s s' : σ} {j j' : Journal} (h : j.Aside j')
    (hk : view s' = view s) : EndsAside w view s j (.ok a, s', j') :=
  ⟨h, hk, fun _ e => by cases e⟩

theorem EndsAside.error {fault : Fault} (hf : w.Allows fault) {s s' : σ} {j j' : Journal}
    (h : j.Aside j') (hk : view s' = view s) :
    EndsAside w view s j ((.error fault, s', j') : Except Fault α × σ × Journal) :=
  ⟨h, hk, fun _ e => by cases e; exact hf⟩

theorem EndsAside.after {s s' : σ} {j j' : Journal} {ending : Except Fault α × σ × Journal}
    (h : j.Aside j') (hk : view s' = view s) (he : EndsAside w view s' j' ending) :
    EndsAside w view s j ending :=
  ⟨h.trans he.aside, he.kept.trans hk, he.allowed⟩

/-- An action that stands aside wherever it starts. -/
def StandsAside (w : World) (view : σ → ρ) (act : Action σ α) : Prop :=
  ∀ s j, EndsAside w view s j (act w s j)

section Ending

variable {act : Action σ α} {r : Except Fault α} {s s' : σ} {j j' : Journal}

theorem StandsAside.aside (h : StandsAside w view act) (e : act w s j = (r, s', j')) :
    j.Aside j' := by
  simpa only [e] using (h s j).aside

theorem StandsAside.kept (h : StandsAside w view act) (e : act w s j = (r, s', j')) :
    view s' = view s := by
  simpa only [e] using (h s j).kept

theorem StandsAside.books (h : StandsAside w view act) (e : act w s j = (r, s', j')) :
    j'.books w = j.books w := Journal.books_of_aside (h.aside e) w

theorem StandsAside.allowed (h : StandsAside w view act) {fault : Fault}
    (e : act w s j = (.error fault, s', j')) : w.Allows fault :=
  (h s j).allowed fault (by rw [e])

end Ending

theorem StandsAside.pure (a : α) : StandsAside w view (Pure.pure a : Action σ α) :=
  fun _ j => .ok a (.refl _ j) rfl

theorem StandsAside.get : StandsAside w view (get : Action σ σ) :=
  fun s j => .ok s (.refl _ j) rfl

theorem StandsAside.read : StandsAside w view (read : Action σ World) :=
  fun _ j => .ok w (.refl _ j) rfl

theorem StandsAside.clock : StandsAside w view (clock : Action σ Nat) :=
  fun _ j => .ok j.clock (.refl _ j) rfl

theorem StandsAside.modify {f : σ → σ} (h : ∀ s, view (f s) = view s) :
    StandsAside w view (modify f : Action σ PUnit) :=
  fun s j => .ok () (.refl _ j) (h s)

theorem StandsAside.fail {fault : Fault} (h : w.Allows fault) :
    StandsAside w view (fail fault : Action σ α) := fun _ j => .error h (.refl _ j) rfl

theorem StandsAside.failWith (failure : Failure) :
    StandsAside w view (failWith failure : Action σ α) :=
  .fail (World.allows_of_isException rfl)

theorem StandsAside.ofExcept {result : Except Problem α} (h : Harmless result) :
    StandsAside w view (ofExcept result : Action σ α) := by
  intro s j
  cases result with
  | ok a => exact .ok a (.refl _ j) rfl
  | error problem => exact .error (World.allows_of_isException (h problem rfl)) (.refl _ j) rfl

theorem StandsAside.log {level : Level} {message : String} {fields : Record Value}
    (h : (Event.logged level message fields).isAside = true) :
    StandsAside w view (log level message fields : Action σ Unit) :=
  fun _ j => .ok () (.add h j) rfl

theorem StandsAside.call {c : Call} (h : (Event.called c).isAside = true) :
    StandsAside w view (call c : Action σ c.Answer) := by
  intro s j
  exact ⟨.call h w j, rfl, fun _ e => World.allows_of_answer e⟩

theorem StandsAside.bind {act : Action σ α} {next : α → Action σ β}
    (h : StandsAside w view act) (hn : ∀ a, StandsAside w view (next a)) :
    StandsAside w view (act >>= next) := by
  intro s j
  rcases e : act w s j with ⟨fault | a, s', j'⟩
  · rw [run_bind_error e]
    exact .error (h.allowed e) (h.aside e) (h.kept e)
  · rw [run_bind_ok e]
    exact .after (h.aside e) (h.kept e) (hn a s' j')

/-- What is read is the world of the run. -/
theorem StandsAside.afterRead {next : World → Action σ β} (h : StandsAside w view (next w)) :
    StandsAside w view (MonadReaderOf.read >>= next) := h

/-- After an attempt, only faults that the world allows need to be handled. -/
theorem StandsAside.attempt {act : Action σ α} {next : Except Fault α → Action σ β}
    (h : StandsAside w view act) (hok : ∀ a, StandsAside w view (next (.ok a)))
    (herror : ∀ fault, w.Allows fault → StandsAside w view (next (.error fault))) :
    StandsAside w view (attempt act >>= next) := by
  intro s j
  rw [run_bind_ok (run_attempt act)]
  refine .after (h s j).aside (h s j).kept ?_
  cases e : (act w s j).1 with
  | ok a => exact hok a _ _
  | error fault => exact herror fault ((h s j).allowed fault e) _ _

theorem StandsAside.within {inner : τ → β} {act : Action τ α} (h : StandsAside w inner act)
    {put : τ → σ → σ} (hp : ∀ part s, view (put part s) = view s) (part : τ) :
    StandsAside w view (within put part act) :=
  fun s j => ⟨(h part j).aside, hp _ s, (h part j).allowed⟩

theorem StandsAside.ite {c : Prop} [Decidable c] {act act' : Action σ α}
    (h : StandsAside w view act) (h' : StandsAside w view act') :
    StandsAside w view (if c then act else act') := by
  split
  · exact h
  · exact h'

theorem StandsAside.foldlM {act : β → α → Action σ β} (h : ∀ b a, StandsAside w view (act b a))
    (b : β) (as : List α) : StandsAside w view (as.foldlM act b) := by
  induction as generalizing b with
  | nil => exact .pure b
  | cons a as ih =>
    rw [List.foldlM_cons]
    exact .bind (h b a) ih

theorem StandsAside.sleep (milliseconds : Nat) :
    StandsAside w view (sleep milliseconds : Action σ Unit) := by
  intro s j
  have waits : StandsAside w view (Action.call (.sleep milliseconds) : Action σ Unit) := .call rfl
  rw [Action.sleep]
  split
  · next e => exact .ok () ((waits.aside e).advance milliseconds) (waits.kept e)
  · next e => exact .error (waits.allowed e) (waits.aside e) (waits.kept e)

theorem Rounds.standsAside {ι : Type} {deadline : Nat} {round : ι → Action σ (β ⊕ ι)}
    {loop : ι → Action σ β} (h : Rounds deadline round loop)
    (hround : ∀ i, StandsAside w view (round i)) (i : ι) : StandsAside w view (loop i) := by
  intro s j
  induction i, s, j using h.induct (w := w) with
  | step i s j ih =>
    rw [h.unfold]
    rcases hrun : round i w s j with ⟨fault | b | i', s', j'⟩
    · rw [run_bind_error hrun]
      exact .error ((hround i).allowed hrun) ((hround i).aside hrun) ((hround i).kept hrun)
    · rw [run_bind_ok hrun]
      exact .ok b ((hround i).aside hrun) ((hround i).kept hrun)
    · rw [run_bind_ok hrun]
      exact .after ((hround i).aside hrun) ((hround i).kept hrun) (ih i' s' j' hrun)

end Action

/-! ### Containers -/

open Mooring.Action

variable {σ α ρ : Type} {w : World} {view : σ → ρ}

theorem standsAside_ensureImage (client : Client) (image : String) :
    StandsAside w view (ensureImage client image : Action σ Unit) := by
  refine .bind (.call rfl) (fun copies => .ite ?_ (.pure _))
  refine .bind (.log rfl) (fun _ => .attempt (.call rfl) (fun _ => .log rfl) ?_)
  intro fault hf
  refine .ite (.bind (.log rfl) (fun _ => .fail ?_)) (.fail hf)
  exact World.allows_of_isException rfl

theorem standsAside_removeContainer (client : Client) (id : ResourceId) :
    StandsAside w view (removeContainer client id : Action σ Unit) := by
  refine .attempt (.call rfl) (fun _ => .log rfl) ?_
  intro fault hf
  refine .ite (.fail hf) (.ite (.log rfl) (.fail ?_))
  exact World.allows_of_isException rfl

theorem standsAside_removeAfter (client : Client) (id : ResourceId) {fault : Fault}
    (hf : w.Allows fault) : StandsAside w view (removeAfter client id fault : Action σ α) := by
  refine .attempt (standsAside_removeContainer client id) (fun _ => .fail hf) ?_
  intro removal hr
  exact .ite (.bind (.log rfl) (fun _ => .fail hf)) (.fail hr)

theorem standsAside_withHelper (client : Client) (spec : HelperSpec)
    {work : ResourceId → Action σ α} (hwork : ∀ id, StandsAside w view (work id)) :
    StandsAside w view (withHelper client spec work) := by
  refine .bind (.call rfl) (fun id => .bind (.log rfl) (fun _ => ?_))
  refine .attempt (.bind (.call rfl) (fun _ => hwork id)) ?_ ?_
  · intro a
    exact .bind (standsAside_removeContainer client id) (fun _ => .pure a)
  · intro fault hf
    exact standsAside_removeAfter client id hf

/-! ### Disk space -/

theorem standsAside_ofTable (table mountPoint : List Char) :
    StandsAside w view (DiskUsage.ofTable table mountPoint : Action σ DiskUsage) := by
  unfold DiskUsage.ofTable
  split
  · exact .pure _
  · split
    · exact .pure _
    · exact .bind (.log rfl) (fun _ => .pure _)

theorem standsAside_measure (client : Client) (image : String) :
    StandsAside w view (DiskUsage.measure client image : Action σ DiskUsage) := by
  refine .bind (standsAside_ensureImage client image) (fun _ => .bind .read (fun _ => ?_))
  refine .bind (standsAside_withHelper client _ ?_) (fun _ => standsAside_ofTable _ _)
  intro id
  exact .bind (.call rfl) (fun _ => .call rfl)

theorem standsAside_check (client : Client) (image : String) (requiredMb : Int) :
    StandsAside w view (DiskUsage.check client image requiredMb : Action σ DiskUsage) := by
  refine .bind (standsAside_measure client image) (fun usage => .bind (.log rfl) (fun _ => ?_))
  split
  · exact .ite (.failWith _) (.pure _)
  · exact .pure _

/-! ### The reaper -/

theorem standsAside_lookForPort (client : Client) (id : ResourceId) :
    StandsAside w view (Reaper.lookForPort client id : Action σ (Option Int)) :=
  .bind (.call rfl) (fun _ => .bind (.call rfl) (fun _ => .ofExcept (.publishedPort? _)))

theorem standsAside_waitForPort (client : Client) (id : ResourceId) (deadline : Nat) :
    StandsAside w view (Reaper.waitForPort client id deadline : Action σ Int) := by
  refine (Reaper.rounds_waitForPort client id deadline).standsAside (fun _ => ?_) ()
  refine .bind (standsAside_lookForPort client id) (fun found => ?_)
  cases found with
  | some port => exact .pure _
  | none =>
    exact .bind .clock (fun _ => .ite (.failWith _) (.bind (.sleep 100) (fun _ => .pure _)))

theorem standsAside_introduce (socket : Socket) (line : String) :
    StandsAside w view (Reaper.introduce socket line : Action σ (Option String)) := by
  refine .bind (.call rfl) (fun _ => .bind (.call rfl) (fun answer => .ite ?_ (.pure _)))
  exact .bind (.call rfl) (fun _ => .pure none)

theorem standsAside_registerOnce (host : String) (port : Int) (line : String) :
    StandsAside w view (Reaper.registerOnce host port line : Action σ Reaper.Registration) := by
  refine .attempt (.call rfl) (fun socket => ?_) (fun fault hf => .ite (.pure _) (.fail hf))
  refine .attempt (standsAside_introduce socket line) (fun reason => ?_) (fun fault hf => ?_)
  · cases reason with
    | none => exact .pure _
    | some reason => exact .bind (.call rfl) (fun _ => .pure _)
  · exact .ite (.bind (.call rfl) (fun _ => .pure _)) (.fail hf)

theorem standsAside_register (host : String) (port : Int) (line : String) (deadline : Nat)
    (reason : Option String) :
    StandsAside w view (Reaper.register host port line deadline reason : Action σ Socket) := by
  refine (Reaper.rounds_register host port line deadline).standsAside (fun _ => ?_) reason
  refine .bind .clock (fun _ => .ite (.failWith _) ?_)
  refine .bind (standsAside_registerOnce host port line) (fun tried => ?_)
  cases tried with
  | acknowledged socket => exact .pure _
  | refused reason => exact .bind (.sleep 500) (fun _ => .pure _)

/-- A view that shows nothing, for actions that may change all of their object. -/
def unseen (_ : σ) : Unit := ()

theorem unseen_eq (s s' : σ) : unseen s = unseen s' := rfl

theorem standsAside_connect (id : ResourceId) : StandsAside w unseen (Reaper.connect id) := by
  refine .bind .get (fun r => .bind .clock (fun _ => ?_))
  refine .bind (standsAside_waitForPort _ _ _) (fun port => .bind .read (fun _ => ?_))
  refine .bind .clock (fun _ => .bind (standsAside_register _ _ _ _ _) (fun socket => ?_))
  exact .bind (.modify (fun _ => rfl)) (fun _ => .pure port)

theorem standsAside_kill : StandsAside w unseen Reaper.kill := by
  refine .bind .get (fun r => ?_)
  split
  · exact .pure ()
  · refine .attempt (.call rfl) (fun _ => .pure ()) (fun fault hf => ?_)
    exact .ite (.log rfl) (.fail hf)

theorem standsAside_reaperStart : StandsAside w unseen Reaper.start := by
  refine .bind .get (fun r => .ite (.bind (.log rfl) (fun _ => .pure ())) (.bind .read ?_))
  intro _
  refine .attempt (.bind (standsAside_ensureImage _ _) (fun _ => .call rfl)) (fun id => ?_) ?_
  · refine .bind (.modify (fun _ => rfl)) (fun _ => ?_)
    refine .attempt (standsAside_connect id) (fun _ => .log rfl) (fun fault hf => ?_)
    exact .ite (.bind standsAside_kill (fun _ => .fail hf)) (.fail hf)
  · intro fault hf
    exact .ite (.fail (World.allows_of_isException rfl)) (.fail hf)

theorem standsAside_reaperClose : StandsAside w unseen Reaper.close := by
  refine .bind .get (fun r => ?_)
  split
  · exact .pure ()
  · exact .bind (.call rfl) (fun _ => .modify (fun _ => rfl))

/-! ### The sidecar, and agents of either kind -/

theorem standsAside_sidecarStart : StandsAside w unseen Sidecar.start := by
  refine .bind .get (fun _ => .bind .read (fun _ => .attempt (.call rfl) (fun process => ?_) ?_))
  · exact .bind (.modify (fun _ => rfl)) (fun _ => .log rfl)
  · intro fault hf
    exact .ite (.fail (World.allows_of_isException rfl)) (.fail hf)

theorem standsAside_sidecarClose : StandsAside w unseen Sidecar.close := by
  refine .bind .get (fun sidecar => ?_)
  split
  · exact .ite (.call rfl) (.pure ())
  · exact .pure ()

theorem standsAside_ensureStarted : StandsAside w unseen Agent.ensureStarted := by
  refine .bind .get (fun agent => .ite (.pure ()) (.bind (.log rfl) (fun _ => ?_)))
  refine .bind (.bind .get (fun agent => ?_)) (fun _ => .modify (fun _ => rfl))
  split
  · exact .within standsAside_sidecarStart (fun _ _ => unseen_eq _ _) _
  · exact .within standsAside_reaperStart (fun _ _ => unseen_eq _ _) _

theorem standsAside_agentClose : StandsAside w unseen Agent.close := by
  refine .bind .get (fun agent => ?_)
  split
  · exact .within standsAside_sidecarClose (fun _ _ => unseen_eq _ _) _
  · exact .within standsAside_reaperClose (fun _ _ => unseen_eq _ _) _

end Mooring
