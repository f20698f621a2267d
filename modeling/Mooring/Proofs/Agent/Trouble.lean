import Mooring.Proofs.Agent.Upkeep

/-! The trouble that a start of an agent lets through. Trouble with a call becomes a failure of the
agent, is passed over, or escapes to the caller. A start ends in what escaped it last; where nothing
did, it ends in a failure of the agent or in none. -/

namespace Mooring

open Mooring.Action

variable {σ α β : Type} {w : World} {image : String}

def Problem.isAgentFailure : Problem → Bool
  | .failure (.resourceManager _) => true
  | _ => false

/-- The trouble that escapes from a step of a start. The daemon's own troubles are caught where the
image is looked up and the container started and killed, and those of the operating system where a
process is started or a socket is talked to; one that is caught while the image is pulled escapes
as a failure of the pull. -/
def Step.escape? (image : String) : Step → Option Problem
  | .asked (.client _ (.imagesNamed _)) (.error problem) =>
    Option.guard (!·.isDaemonTrouble) problem
  | .asked (.client _ (.pullImage _ _)) (.error problem) =>
    some (if problem.isDaemonTrouble then .failure (.imagePull image (some problem.message))
      else problem)
  | .asked (.client _ (.runContainer _)) (.error problem) =>
    Option.guard (!·.isDaemonTrouble) problem
  | .asked (.client _ (.reloadContainer _)) (.error problem) => some problem
  | .asked (.client _ (.containerPorts _)) answer =>
    match answer.bind Reaper.publishedPort? with
    | .ok _ => none
    | .error problem => some problem
  | .asked (.client _ (.killContainer _)) (.error problem) =>
    Option.guard (!·.isDaemonTrouble) problem
  | .asked (.socket (.close _)) (.error problem) => some problem
  | .asked (.socket _) (.error problem) => Option.guard (!·.isOsTrouble) problem
  | .asked (.sleep _) (.error problem) => some problem
  | .asked (.startProcess _ _ _) (.error problem) => Option.guard (!·.isOsTrouble) problem
  | _ => none

def escapes (image : String) (steps : List Step) : List Problem :=
  steps.filterMap (Step.escape? image)

@[simp] theorem escapes_append (image : String) (steps rest : List Step) :
    escapes image (steps ++ rest) = escapes image steps ++ escapes image rest :=
  List.filterMap_append

theorem escapes_cons_of_isLine {x : Step} (h : x.IsLine) (rest : List Step) :
    escapes image (x :: rest) = escapes image rest := by
  cases h
  rfl

/-! ### Tracing -/

/-- The trouble that an action ends in, if it ends in any. -/
def trouble? : Except Fault α → Option Problem
  | .ok _ => none
  | .error fault => some fault.problem

/-- An ending in one kind of trouble, or in none. -/
def EndsIn (is : Problem → Bool) (r : Except Fault α) : Prop :=
  ∀ problem ∈ trouble? r, is problem = true

theorem EndsIn.ok {is : Problem → Bool} (a : α) : EndsIn is (.ok a) := fun _ h => by cases h

theorem EndsIn.error {is : Problem → Bool} {fault : Fault} (h : is fault.problem = true) :
    EndsIn is (.error fault : Except Fault α) := by
  rintro _ ⟨⟩
  exact h

theorem EndsIn.of_error {is : Problem → Bool} {fault : Fault}
    (h : EndsIn is (.error fault : Except Fault α)) : is fault.problem = true :=
  h fault.problem rfl

/-- An ending in the same trouble. -/
def Repeats (fault : Fault) (r : Except Fault α) : Prop := trouble? r = some fault.problem

/-- An ending traced to the steps: nothing has escaped from them, or it is in what escaped last. -/
inductive Traced (image : String) (quiet : Except Fault α → Prop) (loud : Problem → Prop)
    (steps : List Step) : Except Fault α → Prop
  | quiet {r : Except Fault α} (h : escapes image steps = []) (hr : quiet r) :
    Traced image quiet loud steps r
  | loud {fault : Fault} (h : (escapes image steps).getLast? = some fault.problem)
    (hf : loud fault.problem) : Traced image quiet loud steps (.error fault)

section Traced

variable {quiet quiet' : Except Fault α → Prop} {loud loud' : Problem → Prop}
  {steps rest : List Step} {r : Except Fault α}

theorem Traced.after (h : escapes image steps = []) (hr : Traced image quiet loud rest r) :
    Traced image quiet loud (steps ++ rest) r := by
  cases hr with
  | quiet hrest hr => exact .quiet (by rw [escapes_append, h, hrest]; rfl) hr
  | loud hrest hf => exact .loud (by rw [escapes_append, h]; exact hrest) hf

theorem Traced.mono (h : Traced image quiet loud steps r) (hq : ∀ r, quiet r → quiet' r)
    (hl : ∀ problem, loud problem → loud' problem) : Traced image quiet' loud' steps r := by
  cases h with
  | quiet h hr => exact .quiet h (hq _ hr)
  | loud h hf => exact .loud h (hl _ hf)

theorem Traced.escapes_eq_nil {a : α} (h : Traced image quiet loud steps (.ok a)) :
    escapes image steps = [] := by
  cases h with
  | quiet h _ => exact h

end Traced

namespace Action

/-- An action whose endings can be traced, wherever it starts. -/
def Traces (w : World) (image : String) (quiet : Except Fault α → Prop) (loud : Problem → Prop)
    (act : Action σ α) : Prop :=
  ∀ s, Does w act s (fun steps r _ => Traced image quiet loud steps r)

variable {quiet quiet' : Except Fault α → Prop} {loud loud' : Problem → Prop}

theorem Traces.mono {act : Action σ α} (h : Traces w image quiet loud act)
    (hq : ∀ r, quiet r → quiet' r) (hl : ∀ problem, loud problem → loud' problem) :
    Traces w image quiet' loud' act :=
  fun s => (h s).mono (fun _ _ _ h => h.mono hq hl)

theorem Traces.pure {a : α} (h : quiet (.ok a)) :
    Traces w image quiet loud (Pure.pure a : Action σ α) := fun _ => .pure (.quiet rfl h)

theorem Traces.fail {fault : Fault} (h : quiet (.error fault)) :
    Traces w image quiet loud (fail fault : Action σ α) := fun _ => .fail (.quiet rfl h)

theorem Traces.log {quiet : Except Fault Unit → Prop} {level : Level} {message : String}
    {fields : Record Value} (h : quiet (.ok ())) :
    Traces w image quiet loud (log level message fields : Action σ Unit) :=
  fun _ => .log (.quiet rfl h)

theorem Traces.modify {quiet : Except Fault PUnit → Prop} (f : σ → σ) (h : quiet (.ok ())) :
    Traces w image quiet loud (modify f : Action σ PUnit) := fun _ => .change (.quiet rfl h)

theorem Traces.bind {quiet' : Except Fault β → Prop} {act : Action σ α} {next : α → Action σ β}
    (h : Traces w image quiet loud act)
    (hn : ∀ a, quiet (.ok a) → Traces w image quiet' loud (next a))
    (hf : ∀ fault, quiet (.error fault) → quiet' (.error fault)) :
    Traces w image quiet' loud (act >>= next) := by
  refine fun s => (h s).bind ?_ ?_
  · rintro steps a s' (⟨hsteps, ha⟩ | _)
    exact (hn a ha s').mono (fun _ _ _ h => .after hsteps h)
  · rintro steps fault s' (⟨hsteps, hfault⟩ | ⟨hsteps, hloud⟩)
    · exact .quiet hsteps (hf fault hfault)
    · exact .loud hsteps hloud

/-- Two actions in a row that end in the same kind of trouble. -/
theorem Traces.seq {is : Problem → Bool} {act : Action σ α} {next : α → Action σ β}
    (h : Traces w image (EndsIn is) loud act)
    (hn : ∀ a, Traces w image (EndsIn is) loud (next a)) :
    Traces w image (EndsIn is) loud (act >>= next) :=
  h.bind (fun a _ => hn a) (fun _ h => .error h.of_error)

/-- Trouble that is caught is dealt with; trouble that has escaped comes out again, unless more of
it escapes. -/
theorem Traces.attempt {quiet' : Except Fault β → Prop} {act : Action σ α}
    {next : Except Fault α → Action σ β} (h : Traces w image quiet loud act)
    (hquiet : ∀ r, quiet r → Traces w image quiet' loud' (next r))
    (hloud : ∀ fault, loud fault.problem → loud' fault.problem ∧
      Traces w image (Repeats fault) loud' (next (.error fault))) :
    Traces w image quiet' loud' (attempt act >>= next) := by
  refine fun s => (h s).attempt ?_
  rintro steps r s' (⟨hsteps, hr⟩ | @⟨fault, hsteps, hf⟩)
  · exact (hquiet r hr s').mono (fun _ _ _ h => .after hsteps h)
  · obtain ⟨hfault, hnext⟩ := hloud fault hf
    refine (hnext s').mono ?_
    rintro rest r' s'' (⟨hrest, hrepeats⟩ | ⟨hrest, hf'⟩)
    · cases r' with
      | ok b => cases hrepeats
      | error fault' =>
        have hsame : fault'.problem = fault.problem := Option.some.inj hrepeats
        refine .loud ?_ (hsame ▸ hfault)
        rw [escapes_append, hrest, List.append_nil, hsteps, hsame]
    · refine .loud ?_ hf'
      rw [escapes_append, List.getLast?_append, hrest]
      rfl

theorem Traces.repeats {fault : Fault} :
    Traces w image (Repeats fault) loud (Action.fail fault : Action σ α) :=
  .fail rfl

/-- One kind of trouble is caught and handled, and all other goes on. -/
theorem Traces.handle {quiet' : Except Fault β → Prop} {is : Problem → Bool} {act : Action σ α}
    {next : Except Fault α → Action σ β} {handle : Fault → Action σ β}
    (h : Traces w image (EndsIn is) (is · = false) act)
    (hnext : ∀ fault, next (.error fault) =
      if is fault.problem then handle fault else Action.fail fault)
    (hok : ∀ a, Traces w image quiet' (fun _ => True) (next (.ok a)))
    (hhandle : ∀ fault, is fault.problem = true →
      Traces w image quiet' (fun _ => True) (handle fault)) :
    Traces w image quiet' (fun _ => True) (Action.attempt act >>= next) := by
  refine .attempt h (fun r hr => ?_) (fun fault hf => ⟨trivial, ?_⟩)
  · cases r with
    | ok a => exact hok a
    | error fault =>
      rw [hnext, if_pos hr.of_error]
      exact hhandle fault hr.of_error
  · rw [hnext, if_neg (Bool.eq_false_iff.mp hf)]
    exact .repeats

/-- Rounds that end in one kind of trouble. -/
theorem Rounds.traces {ι : Type} {deadline : Nat} {round : ι → Action σ (β ⊕ ι)}
    {loop : ι → Action σ β} {is : Problem → Bool} (h : Rounds deadline round loop)
    (hround : ∀ i, Traces w image (EndsIn is) loud (round i)) (i : ι) :
    Traces w image (EndsIn is) loud (loop i) := by
  refine fun s => h.does (fun _ steps r _ => Traced image (EndsIn is) loud steps r)
    (fun i s => (hround i s).mono ?_) i s
  rintro steps (fault | b | i') s' htraced
  · cases htraced with
    | quiet hsteps hr => exact .fails (.quiet hsteps (.error hr.of_error))
    | loud hsteps hf => exact .fails (.loud hsteps hf)
  · exact .ends (.quiet htraced.escapes_eq_nil (.ok b))
  · exact .next (fun rest r s'' => .after htraced.escapes_eq_nil)

/-- A call of which one kind of trouble is caught. -/
theorem Traces.call {c : Call} {is : Problem → Bool}
    (hok : ∀ a, Step.escape? image (.asked c (.ok a)) = none)
    (herror : ∀ problem, Step.escape? image (.asked c (.error problem)) =
      Option.guard (!is ·) problem) :
    Traces w image (EndsIn is) (is · = false) (call c : Action σ c.Answer) := by
  refine fun s => .call (fun answer _ => ?_)
  cases answer with
  | ok a => exact .quiet (by simp [escapes, hok]) (.ok a)
  | error problem =>
    have hescape := herror problem
    cases his : is problem with
    | true =>
      refine .quiet ?_ (.error his)
      simp [escapes, hescape, Option.guard, his]
    | false =>
      refine .loud ?_ his
      simp [escapes, hescape, Option.guard, his, Fault.of]

end Action

/-- A kind of trouble that does not occur. -/
def Problem.never : Problem → Bool := fun _ => false

/-- An action from which all trouble escapes. -/
abbrev Action.Leaks (w : World) (image : String) (act : Action σ α) : Prop :=
  Traces w image (EndsIn Problem.never) (fun _ => True) act

/-- An action in which trouble either escapes or is a failure of the agent. -/
abbrev Action.Fails (w : World) (image : String) (act : Action σ α) : Prop :=
  Traces w image (EndsIn Problem.isAgentFailure) (fun _ => True) act

theorem Action.Leaks.fails {act : Action σ α} (h : Leaks w image act) : Fails w image act := by
  refine Traces.mono h (fun r hr problem hproblem => ?_) (fun _ => id)
  cases hr problem hproblem

/-- A call of which no trouble is caught. -/
theorem leaks_call {c : Call} (hok : ∀ a, Step.escape? image (.asked c (.ok a)) = none)
    (herror : ∀ problem, Step.escape? image (.asked c (.error problem)) = some problem) :
    Leaks w image (call c : Action σ c.Answer) :=
  Traces.mono (Traces.call hok (fun problem => (herror problem).trans rfl)) (fun _ => id)
    (fun _ _ => trivial)

/-! ### The image and the container -/

theorem traces_ensureImage (k : Client) (image : String) :
    Traces w image (EndsIn Problem.isDaemonTrouble) (·.isDaemonTrouble = false)
      (ensureImage k image : Action σ Unit) := by
  refine .seq (.call (fun _ => rfl) (fun _ => rfl)) (fun copies => ?_)
  split
  · refine .seq (.log (.ok ())) (fun _ s => .attemptCall (fun answer _ => ?_))
    cases answer with
    | ok u => exact .log (.quiet rfl (.ok ()))
    | error problem =>
      show Does w (if (Fault.of problem).problem.isDaemonTrouble then _ else _) s _
      split
      · next h =>
        exact .afterLog (.fail (.loud (congrArg some (if_pos h)) rfl))
      · next h =>
        exact .fail (.loud (congrArg some (if_neg h)) (Bool.eq_false_iff.mpr h))
  · exact .pure (.ok ())

theorem traces_runContainer (k : Client) (image : String) (request : Record Value) :
    Traces w image (EndsIn Problem.isDaemonTrouble) (·.isDaemonTrouble = false)
      (do ensureImage k image; onClient k (.runContainer request) : Action σ ResourceId) :=
  .seq (traces_ensureImage k image) (fun _ => .call (fun _ => rfl) (fun _ => rfl))

namespace Reaper

theorem leaks_kill : Leaks w image kill := by
  intro r
  refine .afterGet ?_
  split
  · exact .pure (.quiet rfl (.ok ()))
  · refine Traces.handle (.call (fun _ => rfl) (fun _ => rfl)) (fun _ => rfl) ?_ ?_ r
    · exact fun _ => .pure (.ok ())
    · exact fun _ _ => .log (.ok ())

/-! ### The port -/

theorem leaks_lookForPort (k : Client) (id : ResourceId) :
    Leaks w image (lookForPort k id : Action σ (Option Int)) := by
  refine .seq (leaks_call (fun _ => rfl) (fun _ => rfl)) (fun _ s => ?_)
  refine .ask (fun ports _ => .ofExcept ?_) (fun problem _ => .loud rfl trivial)
  cases hports : publishedPort? ports with
  | ok found =>
    refine .quiet ?_ (.ok found)
    simp [escapes, Step.escape?, Except.bind, hports]
  | error problem =>
    refine .loud ?_ trivial
    simp [escapes, Step.escape?, Except.bind, hports, Fault.of]

theorem leaks_sleep (milliseconds : Nat) :
    Leaks w image (sleep milliseconds : Action σ Unit) := by
  refine fun s => .sleep (fun answer => ?_)
  cases answer with
  | ok u => exact .quiet rfl (.ok ())
  | error problem => exact .loud rfl trivial

theorem fails_waitForPort (k : Client) (id : ResourceId) (deadline : Nat) :
    Fails w image (waitForPort k id deadline : Action σ Int) := by
  refine (rounds_waitForPort k id deadline).traces (fun _ => ?_) ()
  refine .seq (leaks_lookForPort k id).fails (fun found => ?_)
  cases found with
  | some port => exact .pure (.ok _)
  | none =>
    refine fun s => .afterClock (fun now => ?_)
    split
    · exact .fail (.quiet rfl (.error rfl))
    · exact Traces.seq (leaks_sleep 100).fails (fun _ => .pure (.ok _)) s

/-! ### The registration -/

theorem traces_introduce (socket : Socket) (line : String) :
    Traces w image (EndsIn Problem.isOsTrouble) (·.isOsTrouble = false)
      (introduce socket line : Action σ (Option String)) := by
  refine .seq (.call (fun _ => rfl) (fun _ => rfl)) (fun _ => ?_)
  refine .seq (.call (fun _ => rfl) (fun _ => rfl)) (fun answer => ?_)
  split
  · exact .seq (.call (fun _ => rfl) (fun _ => rfl)) (fun _ => .pure (.ok none))
  · exact .pure (.ok _)

theorem leaks_registerOnce (host : String) (port : Int) (line : String) :
    Leaks w image (registerOnce host port line : Action σ Registration) := by
  have drops (socket : Socket) (reason : String) : Leaks w image
      (do call (.socket (.close socket)); return Registration.refused reason :
        Action σ Registration) :=
    .seq (leaks_call (fun _ => rfl) (fun _ => rfl)) (fun _ => .pure (.ok _))
  refine .handle (.call (fun _ => rfl) (fun _ => rfl)) (fun _ => rfl) (fun socket => ?_)
    (fun _ _ => .pure (.ok _))
  refine .handle (traces_introduce socket line) (fun _ => rfl) (fun refusal => ?_)
    (fun _ _ => drops socket _)
  cases refusal with
  | none => exact .pure (.ok _)
  | some reason => exact drops socket reason

theorem fails_register (host : String) (port : Int) (line : String) (deadline : Nat)
    (reason : Option String) :
    Fails w image (register host port line deadline reason : Action σ Socket) := by
  refine (rounds_register host port line deadline).traces (fun _ s => .afterClock ?_) reason
  intro now
  split
  · exact .fail (.quiet rfl (.error rfl))
  · refine Traces.seq (leaks_registerOnce host port line).fails (fun tried => ?_) s
    cases tried with
    | acknowledged socket => exact .pure (.ok _)
    | refused refusal => exact .seq (leaks_sleep 500).fails (fun _ => .pure (.ok _))

/-! ### The start -/

theorem fails_connect (id : ResourceId) : Fails w image (connect id) := by
  intro r
  refine .afterGet (.afterClock (fun now => ?_))
  refine Traces.seq (fails_waitForPort r.client id _) (fun port s => ?_) r
  refine .afterRead (.afterClock (fun now => ?_))
  exact Traces.seq (fails_register r.host port _ _ none)
    (fun socket => .seq (.modify _ (.ok _)) (fun _ => .pure (.ok port))) s

/-- The container is taken down unless an interrupt is why, and the start ends as it would have,
unless more trouble escapes. -/
theorem traces_takeDown {quiet : Except Fault Unit → Prop} {fault : Fault}
    (h : quiet (.error fault)) :
    Traces w image quiet (fun _ => True)
      (if fault.problem.isException then do kill; fail fault else fail fault) := by
  split
  · refine .bind leaks_kill (fun _ _ => .fail h) (fun fault' hnever => ?_)
    cases hnever.of_error
  · exact .fail h

theorem start_traced (r : Reaper) :
    Does w start r (fun steps result _ => Traced r.settings.reaperImage
      (EndsIn Problem.isAgentFailure) (fun _ => True) steps result) := by
  refine .afterGet ?_
  split
  · exact Traces.seq (.log (.ok ())) (fun _ => .pure (.ok ())) r
  · refine .afterRead (Traces.handle (traces_runContainer r.client r.settings.reaperImage _)
      (fun _ => rfl) (fun id => ?_) (fun _ _ => .fail (EndsIn.error rfl)) r)
    refine .seq (.modify _ (.ok _)) (fun _ => .attempt (fails_connect id) (fun connected hr => ?_)
      (fun fault _ => ⟨trivial, traces_takeDown rfl⟩))
    cases connected with
    | ok port => exact .log (.ok ())
    | error fault => exact traces_takeDown (.error hr.of_error)

end Reaper

theorem Sidecar.fails_start : Fails w image Sidecar.start := by
  intro sidecar
  refine .afterGet (.afterRead ?_)
  exact Traces.handle (.call (fun _ => rfl) (fun _ => rfl)) (fun _ => rfl)
    (fun process => .seq (.modify _ (EndsIn.ok _)) (fun _ => .log (.ok ())))
    (fun _ _ => .fail (EndsIn.error rfl)) sidecar

namespace Agent

def settings (agent : Agent) : Settings :=
  match agent.cleaner with
  | .sidecar sidecar => sidecar.settings
  | .reaper reaper => reaper.settings

theorem startCleaner_traced (agent : Agent) :
    Does w startCleaner agent (fun steps result agent' => Traced agent.settings.reaperImage
      (EndsIn Problem.isAgentFailure) (fun _ => True) steps result ∧
        agent'.started = agent.started) := by
  refine .afterGet ?_
  rw [settings]
  cases agent.cleaner with
  | sidecar sidecar =>
    have starts : Fails w sidecar.settings.reaperImage Sidecar.start := Sidecar.fails_start
    refine (starts sidecar).within.mono ?_
    rintro steps r _ ⟨_, htraced, rfl⟩
    exact ⟨htraced, rfl⟩
  | reaper reaper =>
    refine (Reaper.start_traced reaper).within.mono ?_
    rintro steps r _ ⟨_, htraced, rfl⟩
    exact ⟨htraced, rfl⟩

theorem ensureStarted_traced (agent : Agent) :
    Does w ensureStarted agent (fun steps result agent' => Traced agent.settings.reaperImage
      (EndsIn Problem.isAgentFailure) (fun _ => True) steps result ∧
        agent'.started = result.toBool) := by
  cases hstarted : agent.started with
  | true => exact fun j => ⟨[], by rw [ensureStarted_of_started hstarted, List.append_nil],
      by rw [ensureStarted_of_started hstarted]; exact ⟨.quiet rfl (.ok ()), hstarted⟩⟩
  | false =>
    refine (ensureStarted_of_idle hstarted (startCleaner_traced agent)).mono ?_
    rintro _ result _ ⟨line, rest, agent₁, hline, rfl, ⟨htraced, hagent⟩, rfl⟩
    refine ⟨?_, by rw [hagent, hstarted, Bool.or_false]⟩
    have hlines : escapes agent.settings.reaperImage [line] = [] := escapes_cons_of_isLine hline []
    exact .after hlines htraced

/-- An agent is known to be started exactly if its start has come to its end. The start fails with a
failure of the agent or not at all, unless some trouble escapes from one of its calls: then it fails
with what escaped last. So it fails with nothing but a failure of the agent exactly if what escaped
last, if anything did, is one. -/
theorem trouble_of_ensureStarted (w : World) (agent : Agent) (j : Journal) :
    ∃ result agent' j' steps, ensureStarted w agent j = (result, agent', j') ∧
      j'.steps w = j.steps w ++ steps ∧ agent'.started = result.toBool ∧
      (escapes agent.settings.reaperImage steps = [] → EndsIn Problem.isAgentFailure result) ∧
      (∀ problem ∈ (escapes agent.settings.reaperImage steps).getLast?,
        trouble? result = some problem) ∧
      (EndsIn Problem.isAgentFailure result ↔
        ∀ problem ∈ (escapes agent.settings.reaperImage steps).getLast?,
          problem.isAgentFailure = true) := by
  rcases hrun : ensureStarted w agent j with ⟨result, agent', j'⟩
  obtain ⟨steps, hsteps, htraced, hstarted⟩ := (ensureStarted_traced agent).run hrun
  refine ⟨result, agent', j', steps, rfl, hsteps, hstarted, ?_⟩
  cases htraced with
  | quiet hnone hr => simp [hnone, hr]
  | @loud fault hlast _ =>
    rw [hlast]
    refine ⟨fun hnone => ?_, fun _ => id, Iff.rfl⟩
    rw [hnone] at hlast
    cases hlast

/-- A daemon that does not answer any more. -/
def departed : Problem := .refused .general "daemon went away" none "" "" ""

/-- A world whose daemon departs as soon as the reaper's container runs. -/
def departing : World :=
  .plain (fun
    | .client _ (.reloadContainer _) => some departed
    | _ => none)

/-- The start ends in the daemon's own refusal. -/
theorem unreported_departing :
    departing.Calm ∧ ∃ fault agent' j',
      ensureStarted departing hasty {} = (.error fault, agent', j') ∧
      fault.problem.isRefusal = true ∧ fault.problem.isAgentFailure = false := by
  refine ⟨World.calm_plain ?_, ?_⟩
  · intro c problem h
    split at h <;> cases h
    rfl
  · have htrouble : (trouble? (ensureStarted departing hasty {}).1).map
      (fun problem => (problem.isRefusal, problem.isAgentFailure)) = some (true, false) := by
      decide +kernel
    rcases hrun : ensureStarted departing hasty {} with ⟨fault | _, agent', j'⟩
    · rw [hrun] at htrouble
      simp only [trouble?, Option.map_some, Option.some.injEq, Prod.mk.injEq] at htrouble
      exact ⟨fault, agent', j', rfl, htrouble⟩
    · rw [hrun] at htrouble
      cases htrouble

end Agent

end Mooring
