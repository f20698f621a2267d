import Mooring.Proofs.Agent.Acknowledged
import Mooring.Proofs.Agent.Takedown

/-! Starts of a reaper that an interrupt cuts off. No handler holds an interrupt, so it ends the
start right at the call that it has struck, and nothing is given back after that: the container runs
on, unless it is the call to take it down that was struck, and a socket that is talked on stays
open. -/

namespace Mooring

open Mooring.Action

variable {σ α β : Type} {w : World}

/-! ### Where an interrupt strikes -/

namespace Problem

variable {problem : Problem}

theorem isDaemonTrouble_of_interrupt (h : problem.isException = false) :
    problem.isDaemonTrouble = false := by
  cases problem with
  | interrupt message => rfl
  | _ => cases h

theorem isOsTrouble_of_interrupt (h : problem.isException = false) :
    problem.isOsTrouble = false := by
  cases problem with
  | interrupt message => rfl
  | _ => cases h

end Problem

/-- An ending that is no interrupt, or one that is the answer to the last call. -/
inductive BreaksOff (steps : List Step) : Except Fault α → Prop
  | ok (a : α) : BreaksOff steps (.ok a)
  | failed {fault : Fault} (h : fault.problem.isException = true) : BreaksOff steps (.error fault)
  | struck {c : Call} {problem : Problem}
    (h : steps.getLast? = some (.asked c (.error problem))) :
    BreaksOff steps (.error (.of problem))

section BreaksOff

variable {steps rest : List Step} {r : Except Fault α} {fault : Fault}

theorem BreaksOff.after (h : BreaksOff rest r) : BreaksOff (steps ++ rest) r := by
  cases h with
  | ok a => exact .ok a
  | failed h => exact .failed h
  | struck h => exact .struck (by rw [List.getLast?_append, h]; rfl)

theorem BreaksOff.cast (h : BreaksOff steps (.error fault : Except Fault α)) :
    BreaksOff steps (.error fault : Except Fault β) := by
  cases h with
  | failed h => exact .failed h
  | struck h => exact .struck h

theorem BreaksOff.exists_of_interrupt (h : BreaksOff steps (.error fault : Except Fault α))
    (hf : fault.problem.isException = false) :
    ∃ c problem, fault = .of problem ∧ steps.getLast? = some (.asked c (.error problem)) := by
  cases h with
  | failed h =>
    rw [h] at hf
    cases hf
  | struck h => exact ⟨_, _, rfl, h⟩

end BreaksOff

namespace Action

/-- An action that an interrupt ends right where it strikes. -/
def Breaks (w : World) (act : Action σ α) : Prop :=
  ∀ s, Does w act s (fun steps r _ => BreaksOff steps r)

theorem Breaks.pure (a : α) : Breaks w (Pure.pure a : Action σ α) := fun _ => .pure (.ok a)

theorem Breaks.get : Breaks w (get : Action σ σ) :=
  fun s _ => ⟨[], (List.append_nil _).symm, .ok s⟩

theorem Breaks.read : Breaks w (read : Action σ World) :=
  fun _ _ => ⟨[], (List.append_nil _).symm, .ok w⟩

theorem Breaks.clock : Breaks w (clock : Action σ Nat) :=
  fun _ j => ⟨[], (List.append_nil _).symm, .ok j.clock⟩

theorem Breaks.modify (f : σ → σ) : Breaks w (modify f : Action σ PUnit) :=
  fun _ => .change (.ok ())

theorem Breaks.log (level : Level) (message : String) (fields : Record Value) :
    Breaks w (log level message fields : Action σ Unit) := fun _ => .log (.ok ())

theorem Breaks.fail {fault : Fault} (h : fault.problem.isException = true) :
    Breaks w (fail fault : Action σ α) := fun _ => .fail (.failed h)

theorem Breaks.ofExcept {result : Except Problem α} (h : Harmless result) :
    Breaks w (ofExcept result : Action σ α) := by
  refine fun _ => .ofExcept ?_
  cases result with
  | ok a => exact .ok a
  | error problem => exact .failed (h problem rfl)

theorem Breaks.call (c : Call) : Breaks w (call c : Action σ c.Answer) := by
  refine fun _ => .call (fun answer _ => ?_)
  cases answer with
  | ok a => exact .ok a
  | error problem => exact .struck rfl

theorem Breaks.sleep (milliseconds : Nat) : Breaks w (sleep milliseconds : Action σ Unit) := by
  refine fun _ => .sleep (fun answer => ?_)
  cases answer with
  | ok u => exact .ok u
  | error problem => exact .struck rfl

theorem Breaks.bind {act : Action σ α} {next : α → Action σ β} (h : Breaks w act)
    (hn : ∀ a, Breaks w (next a)) : Breaks w (act >>= next) := by
  refine fun s => (h s).bind (fun steps a s' _ => ?_) (fun steps fault s' => BreaksOff.cast)
  exact (hn a s').mono (fun _ _ _ => BreaksOff.after)

/-- A handler that lets every interrupt pass. -/
theorem Breaks.attempt {act : Action σ α} {next : Except Fault α → Action σ β} (h : Breaks w act)
    (hok : ∀ a, Breaks w (next (.ok a)))
    (herror : ∀ fault, fault.problem.isException = true → Breaks w (next (.error fault)))
    (hpass : ∀ fault, fault.problem.isException = false →
      next (.error fault) = Action.fail fault) :
    Breaks w (Action.attempt act >>= next) := by
  refine fun s => (h s).attempt (fun steps r s' hbreaks => ?_)
  cases r with
  | ok a => exact (hok a s').mono (fun _ _ _ => BreaksOff.after)
  | error fault =>
    cases hf : fault.problem.isException with
    | true => exact (herror fault hf s').mono (fun _ _ _ => BreaksOff.after)
    | false =>
      rw [hpass fault hf]
      refine .fail ?_
      rw [List.append_nil]
      exact hbreaks.cast

theorem Breaks.ite {c : Prop} [Decidable c] {act act' : Action σ α} (h : Breaks w act)
    (h' : Breaks w act') : Breaks w (if c then act else act') := by
  split
  · exact h
  · exact h'

/-- A handler that handles one kind of trouble only, and no interrupt. -/
theorem Breaks.attemptSome {is : Problem → Bool}
    (his : ∀ problem : Problem, problem.isException = false → is problem = false)
    {act : Action σ α} {next : Except Fault α → Action σ β} {handle : Fault → Action σ β}
    (h : Breaks w act) (hok : ∀ a, Breaks w (next (.ok a)))
    (hnext : ∀ fault, next (.error fault) =
      if is fault.problem then handle fault else Action.fail fault)
    (hhandle : ∀ fault, Breaks w (handle fault)) : Breaks w (Action.attempt act >>= next) := by
  refine h.attempt hok (fun fault hf => ?_) (fun fault hf => ?_)
  · rw [hnext]
    exact .ite (hhandle fault) (.fail hf)
  · rw [hnext, his _ hf]
    rfl

theorem Rounds.breaks {ι : Type} {deadline : Nat} {round : ι → Action σ (β ⊕ ι)}
    {loop : ι → Action σ β} (h : Rounds deadline round loop)
    (hround : ∀ i, Breaks w (round i)) (i : ι) : Breaks w (loop i) := by
  refine fun s => h.does (fun _ steps r _ => BreaksOff steps r)
    (fun i s => (hround i s).mono ?_) i s
  rintro steps (fault | b | i') s' hbreaks
  · exact .fails hbreaks.cast
  · exact .ends (.ok b)
  · exact .next (fun rest r s'' => .after)

end Action

theorem breaks_ensureImage (k : Client) (image : String) :
    Breaks w (ensureImage k image : Action σ Unit) := by
  refine .bind (.call _) (fun copies => .ite (.bind (.log _ _ _) (fun _ => ?_)) (.pure _))
  refine .attemptSome (fun _ => Problem.isDaemonTrouble_of_interrupt) (.call _)
    (fun _ => .log _ _ _) (fun _ => rfl) (fun fault => ?_)
  exact .bind (.log _ _ _) (fun _ => .fail rfl)

/-- The socket that is talked on, between its connection and its end. -/
def SocketCall.talks? : SocketCall → Option Socket
  | .send socket _ | .receive socket _ | .clearTimeout socket => some socket
  | .connect _ _ | .close _ => none

def Call.talks? : Call → Option Socket
  | .socket c => c.talks?
  | _ => none

namespace Reaper

theorem breaks_lookForPort (k : Client) (id : ResourceId) :
    Breaks w (lookForPort k id : Action σ (Option Int)) :=
  .bind (.call _) (fun _ => .bind (.call _) (fun _ => .ofExcept (.publishedPort? _)))

theorem breaks_waitForPort (k : Client) (id : ResourceId) (deadline : Nat) :
    Breaks w (waitForPort k id deadline : Action σ Int) := by
  refine (rounds_waitForPort k id deadline).breaks (fun _ => ?_) ()
  refine .bind (breaks_lookForPort k id) (fun found => ?_)
  cases found with
  | some port => exact .pure _
  | none => exact .bind .clock (fun _ => .ite (.fail rfl) (.bind (.sleep 100) (fun _ => .pure _)))

theorem breaks_introduce (socket : Socket) (line : String) :
    Breaks w (introduce socket line : Action σ (Option String)) :=
  .bind (.call _) (fun _ => .bind (.call _) (fun _ =>
    .ite (.bind (.call _) (fun _ => .pure _)) (.pure _)))

theorem breaks_registerOnce (host : String) (port : Int) (line : String) :
    Breaks w (registerOnce host port line : Action σ Registration) := by
  have drops (socket : Socket) (reason : String) : Breaks w
      (do call (.socket (.close socket)); return Registration.refused reason :
        Action σ Registration) :=
    .bind (.call _) (fun _ => .pure _)
  refine .attemptSome (fun _ => Problem.isOsTrouble_of_interrupt) (.call _) (fun socket => ?_)
    (fun _ => rfl) (fun _ => .pure _)
  refine .attemptSome (fun _ => Problem.isOsTrouble_of_interrupt) (breaks_introduce socket line)
    (fun refusal => ?_) (fun _ => rfl) (fun _ => drops socket _)
  cases refusal with
  | none => exact .pure _
  | some reason => exact drops socket reason

theorem breaks_register (host : String) (port : Int) (line : String) (deadline : Nat)
    (reason : Option String) :
    Breaks w (register host port line deadline reason : Action σ Socket) := by
  refine (rounds_register host port line deadline).breaks (fun _ => ?_) reason
  refine .bind .clock (fun _ => .ite (.fail rfl) ?_)
  refine .bind (breaks_registerOnce host port line) (fun tried => ?_)
  cases tried with
  | acknowledged socket => exact .pure _
  | refused refusal => exact .bind (.sleep 500) (fun _ => .pure _)

theorem breaks_connect (id : ResourceId) : Breaks w (connect id) := by
  refine .bind .get (fun r => .bind .clock (fun now => ?_))
  refine .bind (breaks_waitForPort r.client id _) (fun port => .bind .read (fun w => ?_))
  refine .bind .clock (fun now => .bind (breaks_register r.host port _ _ none) (fun socket => ?_))
  exact .bind (.modify _) (fun _ => .pure port)

theorem breaks_kill : Breaks w kill := by
  refine .bind .get (fun r => ?_)
  split
  · exact .pure _
  · exact .attemptSome (fun _ => Problem.isDaemonTrouble_of_interrupt) (.call _)
      (fun _ => .pure _) (fun _ => rfl) (fun _ => .log _ _ _)

theorem breaks_start : Breaks w start := by
  refine .bind .get (fun r => ?_)
  split
  · exact .bind (.log _ _ _) (fun _ => .pure _)
  · refine .bind .read (fun w' => ?_)
    refine .attemptSome (fun _ => Problem.isDaemonTrouble_of_interrupt)
      (.bind (breaks_ensureImage r.client _) (fun _ => .call _)) (fun id => ?_) (fun _ => rfl)
      (fun _ => .fail rfl)
    refine .bind (.modify _) (fun _ => .attempt (breaks_connect id) (fun port => .log _ _ _)
      (fun fault hf => ?_) (fun fault hf => if_neg (Bool.eq_false_iff.mp hf)))
    exact .ite (.bind breaks_kill (fun _ => .fail hf)) (.fail hf)

/-! ### What is left behind -/

/-- Steps that leave one socket open at the most, and if trouble with a call ends them, the one that
this call talks on. -/
def LeavesOpen (container : Option ResourceId) (steps : List Step) : Prop :=
  ∃ left : Option Socket, Leads ⟨container, none⟩ steps ⟨container, left⟩ ∧
    ∀ c problem, steps.getLast? = some (.asked c (.error problem)) → left = c.talks?

/-- The call that is struck comes after every one that has succeeded. -/
theorem struck_after_ok {before rest : List Step} {c c' : Call} {a : c.Answer} {problem : Problem}
    (h : (before ++ .asked c (.ok a) :: rest).getLast? = some (.asked c' (.error problem))) :
    rest.getLast? = some (.asked c' (.error problem)) := by
  rw [List.getLast?_append, List.getLast?_cons, Option.some_or] at h
  cases hrest : rest.getLast? with
  | none =>
    rw [hrest] at h
    cases h
  | some x =>
    rw [hrest] at h
    exact h

/-- The call that is struck comes before any lines that are written after it. -/
theorem struck_before_lines {before lines : List Step} {x : Step} {c : Call} {problem : Problem}
    (hl : ∀ y ∈ lines, y.IsLine)
    (h : (before ++ x :: lines).getLast? = some (.asked c (.error problem))) :
    x = .asked c (.error problem) := by
  rw [List.getLast?_append, List.getLast?_cons, Option.some_or] at h
  cases hlines : lines.getLast? with
  | none =>
    rw [hlines] at h
    exact Option.some.inj h
  | some y =>
    rw [hlines] at h
    cases h
    cases hl _ (List.mem_of_getLast? hlines)

section LeavesOpen

variable {container : Option ResourceId} {steps rest : List Step}

theorem LeavesOpen.quiet (h : ∀ x ∈ steps, x.IsQuiet)
    (ht : ∀ c problem, .asked c (.error problem) ∈ steps → c.talks? = none) :
    LeavesOpen container steps :=
  ⟨none, .quiet h _, fun c problem hlast => (ht c problem (List.mem_of_getLast? hlast)).symm⟩

theorem LeavesOpen.append (h : Leads ⟨container, none⟩ steps ⟨container, none⟩) (hne : rest ≠ [])
    (hr : LeavesOpen container rest) : LeavesOpen container (steps ++ rest) := by
  obtain ⟨left, hleads, hlast⟩ := hr
  refine ⟨left, h.append hleads, fun c problem hends => hlast c problem ?_⟩
  rwa [List.getLast?_append, List.getLast?_eq_some_getLast hne, Option.some_or,
    ← List.getLast?_eq_some_getLast hne] at hends

theorem LeavesOpen.cons {c : Call} {a : c.Answer} (h : (Step.asked c (.ok a)).IsQuiet)
    (hr : LeavesOpen container rest) : LeavesOpen container (.asked c (.ok a) :: rest) := by
  obtain ⟨left, hleads, hlast⟩ := hr
  refine ⟨left, .cons h hleads, fun c' problem hends => hlast c' problem ?_⟩
  exact @struck_after_ok [] _ _ _ _ _ hends

end LeavesOpen

theorem Looks.talks_eq_none {k : Client} {id : ResourceId} {c : Call}
    {answer : Except Problem c.Answer} (h : Looks k id (.asked c answer)) : c.talks? = none := by
  cases h <;> rfl

theorem Talks.talks_eq {socket : Socket} {c : Call} {answer : Except Problem c.Answer}
    (h : Talks socket (.asked c answer)) : c.talks? = some socket := by
  cases h <;> rfl

theorem Waits.looks {k : Client} {id : ResourceId} {steps : List Step} {r : Except Fault Int}
    (h : Waits k id steps r) : ∀ x ∈ steps, Looks k id x := by
  induction h with
  | found => simp [Looks.reload, Looks.ports]
  | failed h => exact h
  | again h _ ih => exact List.forall_mem_append.mpr ⟨h, ih⟩

section Registers

variable {host line : String} {n : Int} {steps : List Step} {fault : Fault}

theorem Tries.leavesOpen (h : Tries w host n line steps (.error fault))
    (container : Option ResourceId) : LeavesOpen container steps := by
  cases h with
  | barred problem =>
    refine ⟨none, ⟨rfl, rfl⟩, fun c problem' hlast => ?_⟩
    cases hlast
    rfl
  | undropped h problem =>
    refine ⟨none, leads_of_drop h _ container, fun c problem' hlast => ?_⟩
    rw [← List.cons_append, List.getLast?_concat] at hlast
    cases hlast
    rfl
  | @abandoned socket talk h =>
    refine ⟨some socket, leads_of_talk h container, fun c problem' hlast => ?_⟩
    rcases List.mem_cons.mp (List.mem_of_getLast? hlast) with hfirst | htalk
    · cases hfirst
    · exact (h _ htalk).talks_eq.symm

theorem Registers.leavesOpen (h : Registers w host n line steps (.error fault))
    (container : Option ResourceId) : LeavesOpen container steps := by
  generalize hr : (.error fault : Except Fault Socket) = r at h
  induction h with
  | late => exact .quiet (by simp) (by simp)
  | failed h =>
    exact h.leavesOpen container
  | acknowledged => cases hr
  | restless h problem =>
    refine .append (h.leads_of_ok container) (by simp) (.quiet ?_ ?_)
    · exact List.forall_mem_singleton.mpr ⟨rfl, rfl, rfl, rfl⟩
    · intro c problem' hc
      cases List.mem_singleton.mp hc
      rfl
  | @again tried rest reason r h _ ih =>
    refine .append (h.leads_of_ok container) (by simp) ?_
    exact .cons ⟨rfl, rfl, rfl, rfl⟩ (ih hr)

end Registers

theorem Connects.leavesOpen {r r' : Reaper} {id : ResourceId} {steps : List Step} {fault : Fault}
    (h : Connects w r id steps (.error fault) r') (container : Option ResourceId) :
    LeavesOpen container steps := by
  have looking {looked : List Step} (hlooks : ∀ x ∈ looked, Looks r.client id x) :
      LeavesOpen container looked :=
    .quiet (fun x hx => (hlooks x hx).isQuiet) (fun c problem hc => (hlooks _ hc).talks_eq_none)
  cases h with
  | unpublished h => exact looking h.looks
  | @unregistered looked tried n _ h hr =>
    cases tried with
    | nil =>
      rw [List.append_nil]
      exact looking h.looks
    | cons x xs => exact .append (.quiet h.isQuiet _) (by simp) (hr.leavesOpen container)

/-- What a call that was struck leaves behind of a start: nothing; or a container that runs on, with
the socket that is talked on; or, if it is the call to take the container down, no more than a
socket. -/
inductive Abandons (r : Reaper) (c : Call) (steps : List Step) : Reaper → Prop
  | nothing (h : ∀ x ∈ steps, x.IsQuiet) : Abandons r c steps r
  | running {id : ResourceId} (hran : steps.filterMap Step.ran? = [id])
    (hkilled : steps.filterMap Step.killed? = [])
    (hsockets : steps.filterMap Step.connected? =
      steps.filterMap Step.parted? ++ c.talks?.toList) :
    Abandons r c steps (r.withContainer id)
  | takenDown {id : ResourceId} {left : Option Socket}
    (hc : c = .client r.client (.killContainer id)) (hran : steps.filterMap Step.ran? = [id])
    (hkilled : steps.filterMap Step.killed? = [id])
    (hsockets : steps.filterMap Step.connected? = steps.filterMap Step.parted? ++ left.toList) :
    Abandons r c steps (r.withContainer id)

section Launched

variable {r : Reaper} {id : ResourceId} {before rest : List Step} {fault : Fault}

/-- All that has happened when a container that runs could not be connected to. -/
def launchedInVain (w : World) (r : Reaper) (id : ResourceId) (before rest : List Step) :
    List Step :=
  before ++ .asked (.client r.client (.runContainer (request r.settings w.session))) (.ok id)
    :: rest

theorem launchedInVain_leads (hb : ∀ x ∈ before, Prepares r.client x)
    (hc : Connects w (r.withContainer id) id rest (.error fault) (r.withContainer id)) :
    ∃ left, Leads {} (launchedInVain w r id before rest) ⟨some id, left⟩ ∧
      ∀ c problem, (launchedInVain w r id before rest).getLast? =
        some (.asked c (.error problem)) → left = c.talks? := by
  obtain ⟨left, hleads, hlast⟩ := hc.leavesOpen (some id)
  refine ⟨left, ?_, fun c problem h => hlast c problem (struck_after_ok h)⟩
  refine (Leads.quiet (fun x hx => (hb x hx).isQuiet) _).append ?_
  exact (Leads.run _ _ id none).append hleads

theorem launchedInVain_not_killed (hb : ∀ x ∈ before, Prepares r.client x)
    (hc : Connects w (r.withContainer id) id rest (.error fault) (r.withContainer id)) :
    ∀ x ∈ launchedInVain w r id before rest, x.killed? = none := by
  refine List.forall_mem_append.mpr ⟨fun x hx => (hb x hx).isQuiet.killed, ?_⟩
  exact List.forall_mem_cons.mpr ⟨rfl, hc.not_killed⟩

end Launched

theorem Starts.abandons {r r' : Reaper} {fault : Fault} {steps : List Step} {c : Call}
    {problem : Problem} (h : Starts w r steps (.error fault) r')
    (hlast : steps.getLast? = some (.asked c (.error problem))) : Abandons r c steps r' := by
  cases h with
  | unprepared h => exact .nothing (fun x hx => (h x hx).isQuiet)
  | refused h problem =>
    refine .nothing (List.forall_mem_append.mpr ⟨fun x hx => (h x hx).isQuiet, ?_⟩)
    exact List.forall_mem_singleton.mpr ⟨rfl, rfl, rfl, rfl⟩
  | @takenDown before rest lines id _ _ h hc answer hl =>
    obtain rfl := hc.eq_of_error
    rw [← List.cons_append, ← List.append_assoc] at hlast ⊢
    cases struck_before_lines hl hlast
    obtain ⟨left, hleads, -⟩ := launchedInVain_leads h hc
    have hends := hleads.append ((Leads.kill r.client id (.error problem) left).append
      (.quiet (fun x hx => (hl x hx).isQuiet) _))
    have hkilled : (launchedInVain w r id before rest ++ Step.asked (.client r.client
        (.killContainer id)) (.error problem) :: lines).filterMap Step.killed? = [id] :=
      killed_once (launchedInVain_not_killed h hc) hl
    have hran := balance_of_holding hends.container
    exact .takenDown rfl ((hran.trans (List.append_nil _)).trans hkilled) hkilled
      (balance_of_holding hends.socket)
  | @interrupted before rest id _ _ h hc =>
    obtain rfl := hc.eq_of_error
    obtain ⟨left, hleads, hleft⟩ := launchedInVain_leads h hc
    obtain rfl := hleft c problem hlast
    have hkilled := List.filterMap_eq_nil_iff.mpr (launchedInVain_not_killed h hc)
    have hran := balance_of_holding hleads.container
    rw [hkilled] at hran
    exact .running hran hkilled (balance_of_holding hleads.socket)

end Reaper

namespace Agent

open Reaper

variable {agent agent' : Agent} {r : Reaper} {fault : Fault} {j j' : Journal}

theorem startCleaner_breaksOff (hcleaner : agent.cleaner = .reaper r) :
    Does w startCleaner agent (fun steps result _ => BreaksOff steps result) := by
  refine .afterGet ?_
  rw [hcleaner]
  refine (breaks_start r).within.mono ?_
  rintro steps result _ ⟨_, hbreaks, -⟩
  exact hbreaks

theorem ensureStarted_of_disabled (hcleaner : agent.cleaner = .reaper r)
    (hdisabled : r.settings.reaperDisabled = true) (hidle : agent.started = false) (w : World)
    (j : Journal) : ∃ agent' j', ensureStarted w agent j = (.ok (), agent', j') := by
  have hstart : ∃ j', start w r (agent.beginning j) = (.ok (), r, j') := by
    rw [start, run_bind_ok run_get]
    simp only [hdisabled, if_true]
    exact ⟨_, rfl⟩
  obtain ⟨j', hstart⟩ := hstart
  have hwork : startCleaner w agent (agent.beginning j) =
      (.ok (), agent.withCleaner (.reaper r), j') := by
    rw [startCleaner, run_bind_ok run_get, hcleaner]
    simp only [run_within, hstart]
    rfl
  rw [ensureStarted, run_bind_ok run_get]
  simp only [hidle, Bool.false_eq_true, if_false]
  rw [run_bind_ok (run_log _ _ _)]
  exact ⟨_, j', (run_bind_ok hwork).trans (run_modify _)⟩

/-- A start that fails has got under way: it was still to be made, with a reaper that the settings
do not do without. -/
theorem idle_of_error (hcleaner : agent.cleaner = .reaper r)
    (h : ensureStarted w agent j = (.error fault, agent', j')) :
    agent.started = false ∧ r.settings.reaperDisabled = false := by
  have hidle : agent.started = false := by
    refine Bool.eq_false_iff.mpr (fun hstarted => ?_)
    rw [ensureStarted_of_started hstarted] at h
    cases h
  refine ⟨hidle, Bool.eq_false_iff.mpr (fun hdisabled => ?_)⟩
  obtain ⟨_, _, hok⟩ := ensureStarted_of_disabled hcleaner hdisabled hidle w j
  rw [hok] at h
  cases h

/-- An interrupt that ends a start is the answer to its last call. Once the container runs it is
left running, unless it is the call to take it down that was struck; and every socket that was
connected has been closed but for the one that the call talks on. -/
theorem abandons_of_interrupt (hcleaner : agent.cleaner = .reaper r)
    (hrun : ensureStarted w agent j = (.error fault, agent', j'))
    (hf : fault.problem.isException = false) :
    ∃ line steps c problem r', line.IsLine ∧ j'.steps w = j.steps w ++ line :: steps ∧
      steps.getLast? = some (.asked c (.error problem)) ∧ fault = .of problem ∧
      agent' = { cleaner := .reaper r', started := false } ∧ Abandons r c steps r' := by
  obtain ⟨hidle, henabled⟩ := idle_of_error hcleaner hrun
  obtain ⟨_, hsteps, line, steps, r', hline, rfl, hstarts, rfl⟩ :=
    (ensureStarted_does hcleaner henabled hidle).run hrun
  obtain ⟨_, hsteps', _, _, _, -, rfl, hbreaks, -⟩ :=
    (ensureStarted_of_idle hidle (startCleaner_breaksOff hcleaner)).run hrun
  -- both accounts are of the same steps
  obtain ⟨-, rfl⟩ := List.cons.inj (List.append_cancel_left (hsteps.symm.trans hsteps'))
  obtain ⟨c, problem, rfl, hlast⟩ := hbreaks.exists_of_interrupt hf
  exact ⟨line, steps, c, problem, r', hline, hsteps, hlast, rfl, rfl, hstarts.abandons hlast⟩

/-- A world whose reaper turns the session down so many times. While the next answer is read an
interrupt strikes. -/
def struck (refusals : Nat) : World :=
  { World.plain (fun _ => none) with
    answer := fun events c => match c with
      | .client _ (.containerPorts _) =>
        { result := .ok (.object [(Reaper.port, .list [.object [("HostPort", .text "49153")]])]) }
      | .socket (.connect _ _) => { result := .ok (events.countP Event.isReceive) }
      | .socket (.receive _ _) =>
        { result := if events.countP Event.isReceive < refusals then
            .ok (Text.encode "NACK\n".toList) else .error (.interrupt "stop") }
      | c => { result := .ok c.plain } }

/-- All that has happened when the interrupt has struck. -/
def stepsStruck (refusals : Nat) : List Step :=
  (ensureStarted (struck refusals) idle {}).2.2.steps (struck refusals)

/-- The trouble that a start ends in there is no failure. -/
def IsStruck (refusals : Nat) : Prop :=
  (trouble? (ensureStarted (struck refusals) idle {}).1).map Problem.isException = some false

theorem IsStruck.exists_fault {refusals : Nat} (h : IsStruck refusals) : ∃ fault agent' j',
    ensureStarted (struck refusals) idle {} = (.error fault, agent', j') ∧
      fault.problem.isException = false := by
  rw [IsStruck] at h
  rcases hrun : ensureStarted (struck refusals) idle {} with ⟨fault | u, agent', j'⟩
  · rw [hrun] at h
    exact ⟨fault, agent', j', rfl, Option.some.inj h⟩
  · rw [hrun] at h
    cases h

/-- The first socket is closed after a refusal, the second one is left, and the container runs
on. -/
theorem abandons_struck : ∃ fault line steps c problem r' j',
    ensureStarted (struck 1) idle {} =
      (.error fault, { cleaner := .reaper r', started := false }, j') ∧
    fault.problem.isException = false ∧ j'.steps (struck 1) = line :: steps ∧
    steps.getLast? = some (.asked c (.error problem)) ∧ Abandons resting c steps r' ∧
    steps.filterMap Step.ran? = ["helper"] ∧ steps.filterMap Step.killed? = [] ∧
    steps.filterMap Step.connected? = [0, 1] ∧ steps.filterMap Step.parted? = [0] := by
  have hstruck : IsStruck 1 := by
    unfold IsStruck
    decide +kernel
  obtain ⟨fault, agent', j', hrun, hf⟩ := hstruck.exists_fault
  obtain ⟨line, steps, c, problem, r', ⟨level, message, fields⟩, hsteps, hlast, -, rfl, h⟩ :=
    abandons_of_interrupt rfl hrun hf
  have hall : stepsStruck 1 = .wrote level message fields :: steps := by
    rw [stepsStruck, hrun]
    exact hsteps
  have hran : (stepsStruck 1).filterMap Step.ran? = ["helper"] := by decide +kernel
  have hkilled : (stepsStruck 1).filterMap Step.killed? = [] := by decide +kernel
  have hconnected : (stepsStruck 1).filterMap Step.connected? = [0, 1] := by decide +kernel
  have hparted : (stepsStruck 1).filterMap Step.parted? = [0] := by decide +kernel
  rw [hall] at hran hkilled hconnected hparted
  exact ⟨fault, _, steps, c, problem, r', j', hrun, hf, hsteps, hlast, h, hran, hkilled,
    hconnected, hparted⟩

/-- An interrupt at the first answer: neither the container nor the socket is given back. -/
theorem abandoned_struck : IsStruck 0 ∧ (stepsStruck 0).filterMap Step.ran? = ["helper"] ∧
    (stepsStruck 0).filterMap Step.killed? = [] ∧
    (stepsStruck 0).filterMap Step.connected? = [0] ∧
    (stepsStruck 0).filterMap Step.parted? = [] := by
  unfold IsStruck
  decide +kernel

end Agent

end Mooring
