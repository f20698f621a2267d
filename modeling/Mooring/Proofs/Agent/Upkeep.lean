import Mooring.Proofs.Agent.Holding
import Mooring.Proofs.Aside

/-! The upkeep of an agent over any row of orders to start and to close. A reaper has one container
and one socket at the most, at every moment: what an attempt in vain has taken is given back before
the next one takes anything. A sidecar is one process at the most. -/

namespace Mooring

open Mooring.Action

/-! ### Orders -/

namespace Agent

variable {w : World} {agent agent' : Agent} {steps : List Step}

/-- What an agent is told to do. -/
inductive Order where
  | start
  | close
  deriving DecidableEq, Repr

def Order.act : Order → Action Agent Unit
  | .start => ensureStarted
  | .close => Agent.close

/-- Carries out orders one after another, whatever comes of each. -/
def obey : List Order → Action Agent Unit
  | [] => pure ()
  | order :: orders => do
    let _ ← attempt order.act
    obey orders

/-- The upkeep of a reaper that is allowed to run: all steps so far have led to what is held now. -/
structure Keeps (agent : Agent) (steps : List Step) (r : Reaper) : Prop where
  cleaner : agent.cleaner = .reaper r
  enabled : r.settings.reaperDisabled = false
  leads : Leads {} steps ⟨if agent.started then r.container else none, r.socket⟩
  running : agent.started = true → r.container.isSome = true
  idle : agent.started = false → r.socket = none

theorem ensureStarted_of_started (h : agent.started = true) (w : World) (j : Journal) :
    ensureStarted w agent j = (.ok (), agent, j) := by
  rw [ensureStarted, run_bind_ok run_get, h]
  rfl

/-- What an action that stands aside comes to is allowed in the world. -/
theorem does_allowed {σ α ρ : Type} {view : σ → ρ} {act : Action σ α} {s : σ}
    {post : List Step → Except Fault α → σ → Prop} (ha : StandsAside w view act)
    (h : Does w act s post) :
    Does w act s (fun steps result s' => post steps result s' ∧
      ∀ fault, result = .error fault → w.Allows fault) := by
  intro j
  obtain ⟨steps, hsteps, hpost⟩ := h j
  exact ⟨steps, hsteps, hpost, (ha s j).allowed⟩

theorem Keeps.start (hw : w.Calm) (hn : w.Networked) {r : Reaper} (h : Keeps agent steps r) :
    Does w ensureStarted agent (fun more _ agent' => ∃ r', Keeps agent' (steps ++ more) r') := by
  cases hstarted : agent.started with
  | true =>
    intro j
    rw [ensureStarted_of_started hstarted]
    exact ⟨[], (List.append_nil _).symm, r, by rwa [List.append_nil]⟩
  | false =>
    have starts := does_allowed standsAside_ensureStarted
      (ensureStarted_does (w := w) h.cleaner h.enabled hstarted)
    refine starts.mono ?_
    rintro _ result agent' ⟨⟨line, rest, r', hline, rfl, hstarts, rfl⟩, hallowed⟩
    have hexception : ∀ fault, result = .error fault → fault.problem.isException = true :=
      fun fault hfault => hallowed fault hfault hw
    obtain ⟨hleads, hsocket, hcontainer⟩ := hstarts.leads hn (h.idle hstarted) hexception
    have hbefore : Leads {} steps {} := by
      simpa [hstarted, h.idle hstarted] using h.leads
    refine ⟨r', rfl, hstarts.settings_eq ▸ h.enabled, ?_, hcontainer, fun hidle => ?_⟩
    · exact hbefore.append (.cons hline.isQuiet hleads)
    · rw [← Option.not_isSome_iff_eq_none, hsocket]
      exact Bool.eq_false_iff.mp hidle

theorem Keeps.close (hn : w.Networked) {r : Reaper} (h : Keeps agent steps r) :
    Does w Agent.close agent (fun more _ agent' => ∃ r', Keeps agent' (steps ++ more) r') := by
  refine .afterGet ?_
  rw [h.cleaner]
  refine (Reaper.close_does hn r).within.mono ?_
  rintro more _ _ ⟨_, ⟨rfl, hleads⟩, rfl⟩
  exact ⟨r.parted, rfl, h.enabled, h.leads.append (hleads _), h.running, fun _ => rfl⟩

/-- Whatever every order keeps is kept by any row of orders. -/
theorem obey_does (kept : Agent → List Step → Prop)
    (hact : ∀ (order : Order) agent steps, kept agent steps →
      Does w order.act agent (fun more _ agent' => kept agent' (steps ++ more)))
    (orders : List Order) (h : kept agent steps) :
    Does w (obey orders) agent (fun more result agent' =>
      result = .ok () ∧ kept agent' (steps ++ more)) := by
  induction orders generalizing agent steps with
  | nil => exact .pure ⟨rfl, by rwa [List.append_nil]⟩
  | cons order orders ih =>
    refine (hact order _ _ h).attempt ?_
    intro more _ agent' h'
    refine (ih h').mono ?_
    rintro rest _ agent'' ⟨rfl, h''⟩
    exact ⟨rfl, by rwa [← List.append_assoc]⟩

theorem Keeps.act (hw : w.Calm) (hn : w.Networked) {r : Reaper} (h : Keeps agent steps r)
    (order : Order) :
    Does w order.act agent (fun more _ agent' => ∃ r', Keeps agent' (steps ++ more) r') := by
  cases order with
  | start => exact h.start hw hn
  | close => exact h.close hn

/-! ### The sidecar -/

/-- The upkeep of a sidecar: the process that is held is the only one that was ever started. -/
structure KeepsSide (agent : Agent) (steps : List Step) (s : Sidecar) : Prop where
  cleaner : agent.cleaner = .sidecar s
  launched : steps.filterMap Step.launched? = s.process.toList
  running : s.process.isSome = agent.started

/-- What comes of the start of a side process. -/
inductive SideStarts (s : Sidecar) : List Step → Except Fault Unit → Sidecar → Prop
  | launched {steps : List Step} {process : Process}
    (h : steps.filterMap Step.launched? = [process]) :
    SideStarts s steps (.ok ()) { s with process := some process }
  | refused {steps : List Step} (h : steps.filterMap Step.launched? = []) (fault : Fault) :
    SideStarts s steps (.error fault) s

theorem sidecarStart_does (s : Sidecar) : Does w Sidecar.start s (SideStarts s) := by
  refine .afterGet (.afterRead (.attemptCall (fun answer _ => ?_)))
  cases answer with
  | ok process => exact .afterChange (.log (.launched rfl))
  | error problem =>
    show Does w (if (Fault.of problem).problem.isOsTrouble then _ else _) s _
    split
    · exact .fail (.refused rfl _)
    · exact .fail (.refused rfl _)

theorem sidecarClose_does (s : Sidecar) :
    Does w Sidecar.close s (fun steps _ s' => steps.filterMap Step.launched? = [] ∧ s' = s) := by
  refine .afterGet ?_
  split
  · split
    · exact .call (fun _ _ => ⟨rfl, rfl⟩)
    · exact .pure ⟨rfl, rfl⟩
  · exact .pure ⟨rfl, rfl⟩

theorem KeepsSide.start {s : Sidecar} (h : KeepsSide agent steps s) :
    Does w ensureStarted agent
      (fun more _ agent' => ∃ s', KeepsSide agent' (steps ++ more) s') := by
  cases hstarted : agent.started with
  | true =>
    intro j
    rw [ensureStarted_of_started hstarted]
    exact ⟨[], (List.append_nil _).symm, s, by rwa [List.append_nil]⟩
  | false =>
    have hnone : s.process = none := by
      simpa [hstarted] using h.running
    have starts : Does w startCleaner agent (fun rest result agent' => ∃ s',
        SideStarts s rest result s' ∧ agent' = withCleaner (.sidecar s') agent) := by
      refine .afterGet ?_
      rw [h.cleaner]
      exact (sidecarStart_does s).within
    refine (ensureStarted_of_idle hstarted starts).mono ?_
    rintro _ result _ ⟨_, rest, _, ⟨level, message, fields⟩, rfl, ⟨s', hs', rfl⟩, rfl⟩
    have hlaunched : (steps ++ .wrote level message fields :: rest).filterMap Step.launched? =
        rest.filterMap Step.launched? := by
      rw [List.filterMap_append, h.launched, hnone]
      rfl
    cases hs' with
    | launched hrest => exact ⟨_, rfl, hlaunched.trans hrest, rfl⟩
    | refused hrest fault =>
      refine ⟨s, rfl, ?_, ?_⟩
      · rw [hlaunched, hrest, hnone]
        rfl
      · rw [hnone]
        exact hstarted.symm

theorem KeepsSide.close {s : Sidecar} (h : KeepsSide agent steps s) :
    Does w Agent.close agent (fun more _ agent' => ∃ s', KeepsSide agent' (steps ++ more) s') := by
  refine .afterGet ?_
  rw [h.cleaner]
  refine (sidecarClose_does s).within.mono ?_
  rintro more _ _ ⟨_, ⟨hmore, rfl⟩, rfl⟩
  refine ⟨_, rfl, ?_, h.running⟩
  rw [List.filterMap_append, hmore, List.append_nil, h.launched]

theorem KeepsSide.act {s : Sidecar} (h : KeepsSide agent steps s) (order : Order) :
    Does w order.act agent (fun more _ agent' => ∃ s', KeepsSide agent' (steps ++ more) s') := by
  cases order with
  | start => exact h.start
  | close => exact h.close

/-! ### Any row of orders -/

theorem started_of_ensureStarted {j j' : Journal}
    (h : ensureStarted w agent j = (.ok (), agent', j')) : agent'.started = true := by
  cases hstarted : agent.started with
  | true =>
    rw [ensureStarted_of_started hstarted] at h
    cases h
    exact hstarted
  | false =>
    simp only [ensureStarted, run_bind_ok run_get, hstarted, Bool.false_eq_true, if_false,
      run_bind_ok (run_log _ _ _)] at h
    rcases run_bind_cases h with ⟨u, agent₁, j₁, -, hset⟩ | ⟨fault, -, hfault⟩
    · cases hset
      rfl
    · cases hfault

theorem started_close (w : World) (agent : Agent) (j : Journal) :
    (Agent.close w agent j).2.1.started = agent.started := by
  rw [Agent.close, run_bind_ok run_get]
  cases agent.cleaner <;> rfl

theorem started_obey (h : agent.started = true) (orders : List Order) (j : Journal) :
    (obey orders w agent j).2.1.started = true := by
  induction orders generalizing agent j with
  | nil => exact h
  | cons order orders ih =>
    rw [obey, run_bind_ok (run_attempt _)]
    refine ih ?_ _
    cases order with
    | start =>
      show (ensureStarted w agent j).2.1.started = true
      rw [ensureStarted_of_started h]
      exact h
    | close => exact (started_close w agent j).trans h

/-- After any row of orders, a reaper that is known to be started has one container that runs and
was not taken down, and one that is not has none; the same goes for its socket. So it is at every
moment on the way, except that an attempt holds what it has taken until it ends. A sidecar has as
many processes as it is known to have started. An agent that was started once does nothing when it
is told to start again. -/
theorem upkeep_of_orders (w : World) (settings : Settings) (orders : List Order) (j : Journal) :
    (w.Calm → w.Networked → settings.reaperDisabled = false →
      ∀ (client : Client) (host : String) (patience : Binary64), ∃ agent r j' steps,
        obey orders w { cleaner := .reaper { client, settings, host, patience } } j =
          (.ok (), agent, j') ∧
        agent.cleaner = .reaper r ∧ j'.steps w = j.steps w ++ steps ∧
        ((steps.filterMap Step.ran?).length - (steps.filterMap Step.killed?).length : Int) =
          (if agent.started then 1 else 0) ∧
        steps.filterMap Step.ran? = steps.filterMap Step.killed? ++
          (if agent.started then r.container else none).toList ∧
        ((steps.filterMap Step.connected?).length - (steps.filterMap Step.parted?).length : Int) =
          (if r.socket.isSome then 1 else 0) ∧
        steps.filterMap Step.connected? = steps.filterMap Step.parted? ++ r.socket.toList ∧
        ∀ before, before <+: steps → ∃ (container : Option ResourceId) (socket : Option Socket),
          before.filterMap Step.ran? = before.filterMap Step.killed? ++ container.toList ∧
          before.filterMap Step.connected? = before.filterMap Step.parted? ++ socket.toList) ∧
    (∃ agent s j' steps,
      obey orders w { cleaner := .sidecar { settings } } j = (.ok (), agent, j') ∧
      agent.cleaner = .sidecar s ∧ j'.steps w = j.steps w ++ steps ∧
      steps.filterMap Step.launched? = s.process.toList ∧
      (steps.filterMap Step.launched?).length = if agent.started then 1 else 0) ∧
    ∀ (agent agent' : Agent) (j j' : Journal), ensureStarted w agent j = (.ok (), agent', j') →
      ∀ j'', ensureStarted w (obey orders w agent' j').2.1 j'' =
        (.ok (), (obey orders w agent' j').2.1, j'') := by
  refine ⟨fun hw hn henabled client host patience => ?_, ?_, ?_⟩
  · have hfresh : Keeps { cleaner := .reaper { client, settings, host, patience } } []
        { client, settings, host, patience } := ⟨rfl, henabled, ⟨rfl, rfl⟩, nofun, fun _ => rfl⟩
    have hobey := obey_does (fun agent steps => ∃ r, Keeps agent steps r)
      (fun order _ _ ⟨_, h⟩ => h.act hw hn order) orders ⟨_, hfresh⟩
    rcases hrun : obey orders w { cleaner := .reaper { client, settings, host, patience } } j with
      ⟨result, agent, j'⟩
    obtain ⟨steps, hsteps, rfl, r, hkeeps⟩ := hobey.run hrun
    have hcontainers : steps.filterMap Step.ran? = steps.filterMap Step.killed? ++
        (if agent.started then r.container else none).toList :=
      balance_of_holding hkeeps.leads.container
    have hsockets : steps.filterMap Step.connected? =
        steps.filterMap Step.parted? ++ r.socket.toList := balance_of_holding hkeeps.leads.socket
    refine ⟨agent, r, j', steps, rfl, hkeeps.cleaner, hsteps, ?_, hcontainers,
      length_sub_of_balance hsockets, hsockets, fun before hbefore => ?_⟩
    · rw [length_sub_of_balance hcontainers]
      split
      · next hstarted =>
        rw [if_pos (hkeeps.running hstarted)]
      · rfl
    · obtain ⟨container, hcontainer⟩ := exists_of_holding hkeeps.leads.container hbefore
      obtain ⟨socket, hsocket⟩ := exists_of_holding hkeeps.leads.socket hbefore
      exact ⟨container, socket, hcontainer, hsocket⟩
  · have hfresh : KeepsSide { cleaner := .sidecar { settings } } [] { settings } :=
      ⟨rfl, rfl, rfl⟩
    have hobey := obey_does (w := w) (fun agent steps => ∃ s, KeepsSide agent steps s)
      (fun order _ _ ⟨_, h⟩ => h.act order) orders ⟨_, hfresh⟩
    rcases hrun : obey orders w { cleaner := .sidecar { settings } } j with ⟨result, agent, j'⟩
    obtain ⟨steps, hsteps, rfl, s, hkeeps⟩ := hobey.run hrun
    rw [List.nil_append] at hkeeps
    refine ⟨agent, s, j', steps, rfl, hkeeps.cleaner, hsteps, hkeeps.launched, ?_⟩
    rw [hkeeps.launched, ← hkeeps.running]
    cases s.process <;> rfl
  · intro agent agent' j j' h j''
    exact ensureStarted_of_started (started_obey (started_of_ensureStarted h) orders j') w j''

end Agent

theorem World.networked_slow : World.slow.Networked := by
  refine ⟨fun events c problem h => ?_, fun events socket => rfl⟩
  cases c <;> cases h

namespace Agent

def insistence : List Order := [.start, .start, .close, .start, .start]

/-- Told to start until it does, the reaper takes down both containers that it has started in vain.
It holds the third, and the socket that it got through to at the second attempt. -/
theorem upkeep_slow : ∃ agent r j' steps,
    obey insistence World.slow hasty {} = (.ok (), agent, j') ∧
    agent.cleaner = .reaper r ∧ j'.steps World.slow = steps ∧ agent.started = true ∧
    steps.filterMap Step.ran? = ["first", "second", "second"] ∧
    steps.filterMap Step.killed? = ["first", "second"] ∧
    steps.filterMap Step.connected? = [0, 0] ∧ steps.filterMap Step.parted? = [0] ∧
    ∀ before, before <+: steps → ∃ (container : Option ResourceId) (socket : Option Socket),
      before.filterMap Step.ran? = before.filterMap Step.killed? ++ container.toList ∧
      before.filterMap Step.connected? = before.filterMap Step.parted? ++ socket.toList := by
  obtain ⟨hreaper, -, -⟩ := upkeep_of_orders World.slow .plain insistence {}
  obtain ⟨agent, r, j', steps, hrun, hcleaner, hsteps, -, -, -, -, hmoments⟩ :=
    hreaper World.calm_slow World.networked_slow rfl "client" "localhost" ⟨false, 1, -2⟩
  have hrun : obey insistence World.slow hasty {} = (.ok (), agent, j') := hrun
  have hsteps : j'.steps World.slow = steps := hsteps
  have hstarted : (obey insistence World.slow hasty {}).2.1.started = true := by decide +kernel
  have hbooks : let steps := (obey insistence World.slow hasty {}).2.2.steps World.slow
      steps.filterMap Step.ran? = ["first", "second", "second"] ∧
      steps.filterMap Step.killed? = ["first", "second"] ∧
      steps.filterMap Step.connected? = [0, 0] ∧ steps.filterMap Step.parted? = [0] := by
    decide +kernel
  rw [hrun] at hstarted hbooks
  rw [hsteps] at hbooks
  obtain ⟨hran, hkilled, hconnected, hparted⟩ := hbooks
  exact ⟨agent, r, j', steps, hrun, hcleaner, hsteps, hstarted, hran, hkilled, hconnected, hparted,
    hmoments⟩

end Agent

end Mooring
