import Mooring.Proofs.Agent.Trouble

/-! A start that fails once the reaper's container runs. The container is taken down by one call,
and the start ends in the trouble that it failed with wherever the daemon takes the container down
or refuses to. Trouble of any other kind with this call comes out in its place. -/

namespace Mooring

open Mooring.Action

namespace Reaper

variable {σ : Type} {w : World} {r r' : Reaper} {id : ResourceId} {fault : Fault}
  {j j' j₁ j₂ : Journal}

/-- Makes sure of the image and runs the container. -/
def launch (r : Reaper) (session : String) : Action σ ResourceId := do
  ensureImage r.client r.settings.reaperImage
  onClient r.client (.runContainer (request r.settings session))

/-! ### Steps that take nothing down -/

theorem not_killed_of_launch {session : String} (s : σ) :
    Does w (launch r session) s (fun steps _ _ => ∀ x ∈ steps, x.killed? = none) := by
  refine (runContainer_does _ _ _ s).mono ?_
  rintro steps _ _ ⟨⟨fault, hprepares, -⟩ | ⟨before, answer, hprepares, rfl, -⟩, -⟩
  · exact fun x hx => (hprepares x hx).isQuiet.killed
  · refine List.forall_mem_append.mpr ⟨fun x hx => (hprepares x hx).isQuiet.killed, ?_⟩
    exact List.forall_mem_singleton.mpr rfl

theorem Tries.not_killed {host line : String} {n : Int} {result : Except Fault Registration}
    (h : Tries w host n line steps result) : ∀ x ∈ steps, x.killed? = none := by
  have talked {socket : Socket} {talk : List Step} (htalk : ∀ x ∈ talk, Talks socket x) :
      ∀ x ∈ talk, x.killed? = none := fun x hx => (htalk x hx).isQuiet.killed
  cases h with
  | unreached | barred => exact List.forall_mem_singleton.mpr rfl
  | acknowledged h => simp [acknowledging, Step.killed?]
  | dropped h | undropped h =>
    refine List.forall_mem_cons.mpr ⟨rfl, List.forall_mem_append.mpr ⟨talked h, ?_⟩⟩
    exact List.forall_mem_singleton.mpr rfl
  | abandoned h => exact List.forall_mem_cons.mpr ⟨rfl, talked h⟩

theorem Registers.not_killed {host line : String} {n : Int} {result : Except Fault Socket}
    (h : Registers w host n line steps result) : ∀ x ∈ steps, x.killed? = none := by
  induction h with
  | late => simp
  | failed h | acknowledged h => exact h.not_killed
  | restless h =>
    exact List.forall_mem_append.mpr ⟨h.not_killed, List.forall_mem_singleton.mpr rfl⟩
  | again h _ ih =>
    exact List.forall_mem_append.mpr ⟨h.not_killed, List.forall_mem_cons.mpr ⟨rfl, ih⟩⟩

theorem Connects.not_killed {result : Except Fault Int} (h : Connects w r id steps result r') :
    ∀ x ∈ steps, x.killed? = none := by
  cases h with
  | unpublished h => exact fun x hx => (h.isQuiet x hx).killed
  | unregistered h hr | registered h hr =>
    exact List.forall_mem_append.mpr ⟨fun x hx => (h.isQuiet x hx).killed, hr.not_killed⟩

theorem killed_once {client : Client} {before lines : List Step} {answer : Except Problem Unit}
    (hb : ∀ x ∈ before, x.killed? = none) (hl : ∀ x ∈ lines, x.IsLine) :
    (before ++ .asked (.client client (.killContainer id)) answer :: lines).filterMap
      Step.killed? = [id] := by
  have hlast : lines.filterMap Step.killed? = [] :=
    List.filterMap_eq_nil_iff.mpr (fun x hx => (hl x hx).isQuiet.killed)
  rw [List.filterMap_append, List.filterMap_eq_nil_iff.mpr hb, List.nil_append]
  exact congrArg (id :: ·) hlast

theorem waitForPort_of_trouble {client : Client} {deadline : Nat} {s s' : σ}
    (h : lookForPort client id w s j = (.error fault, s', j')) :
    waitForPort client id deadline w s j = (.error fault, s', j') := by
  rw [waitForPort]
  split <;> simp_all

/-! ### The call that takes it down -/

/-- What is done about the daemon's answer. -/
def settle : Except Problem Unit → Action Reaper Unit
  | .ok () => pure ()
  | .error problem =>
    if problem.isDaemonTrouble then
      log .warning "Failed to kill reaper container" [("error", .text problem.message)]
    else fail (.of problem)

theorem run_kill (hcontainer : r.container = some id) {answer : Except Problem Unit}
    (hanswer : (w.answer j.events (.client r.client (.killContainer id))).result = answer) :
    kill w r j = settle answer w r (j.afterCall w (.client r.client (.killContainer id))) := by
  have hattempt : attempt (onClient r.client (.killContainer id)) w r j =
      (.ok (answer.mapError Fault.of), r,
       j.afterCall w (.client r.client (.killContainer id))) := by
    rw [run_attempt, run_onClient, hanswer]
  rw [kill, run_bind_ok run_get, hcontainer]
  refine (run_bind_ok hattempt).trans ?_
  cases answer <;> rfl

/-- What a start ends in that has failed already, by what comes of taking the container down. -/
def endingAfter (fault : Fault) : Except Problem Unit → Fault
  | .ok () => fault
  | .error problem => if problem.isDaemonTrouble then fault else .of problem

theorem run_settle (w : World) (r : Reaper) (answer : Except Problem Unit) (fault : Fault)
    (j : Journal) : ∃ lines j',
      (do settle answer; fail fault : Action Reaper Unit) w r j =
        (.error (endingAfter fault answer), r, j') ∧
      j'.steps w = j.steps w ++ lines ∧ ∀ x ∈ lines, x.IsLine := by
  cases answer with
  | ok u => exact ⟨[], j, rfl, (List.append_nil _).symm, by simp⟩
  | error problem =>
    rw [settle, endingAfter]
    cases problem.isDaemonTrouble with
    | true => exact ⟨_, _, rfl, Journal.steps_add .., List.forall_mem_singleton.mpr (.wrote _ _ _)⟩
    | false => exact ⟨[], j, rfl, (List.append_nil _).symm, by simp⟩

/-- A start that has failed takes the container down by one call. -/
theorem run_takeDown (hcontainer : r.container = some id) {answer : Except Problem Unit}
    (hanswer : (w.answer j.events (.client r.client (.killContainer id))).result = answer)
    (fault : Fault) : ∃ lines j',
      (do kill; fail fault : Action Reaper Unit) w r j =
        (.error (endingAfter fault answer), r, j') ∧
      j'.steps w = j.steps w ++ .asked (.client r.client (.killContainer id)) answer :: lines ∧
      ∀ x ∈ lines, x.IsLine := by
  obtain ⟨lines, j', hends, hsteps, hlines⟩ := run_settle w r answer fault
    (j.afterCall w (.client r.client (.killContainer id)))
  refine ⟨lines, j', ?_, ?_, hlines⟩
  · rw [run_bind, run_kill hcontainer hanswer]
    exact hends
  · rw [hsteps, Journal.steps_afterCall, hanswer, List.append_assoc]
    rfl

theorem run_start (henabled : r.settings.reaperDisabled = false)
    (hlaunch : launch r w.session w r j = (.ok id, r, j₁))
    (hconnect : connect id w (r.withContainer id) j₁ = (.error fault, r', j₂))
    (hf : fault.problem.isException = true) :
    start w r j = (do kill; fail fault : Action Reaper Unit) w r' j₂ := by
  have hlaunched : attempt (launch r w.session) w r j = (.ok (.ok id), r, j₁) := by
    rw [run_attempt, hlaunch]
  have hconnected : attempt (connect id) w (r.withContainer id) j₁ =
      (.ok (.error fault), r', j₂) := by
    rw [run_attempt, hconnect]
  rw [start, run_bind_ok run_get]
  simp only [henabled, Bool.false_eq_true, if_false]
  rw [run_bind_ok run_read]
  refine (run_bind_ok hlaunched).trans ?_
  refine (run_bind_ok (run_modify _)).trans ((run_bind_ok hconnected).trans ?_)
  simp only [hf, if_true]

end Reaper

namespace Agent

variable {w : World} {agent : Agent} {r r' : Reaper} {id : ResourceId} {fault : Fault}
  {answer : Except Problem Unit} {j j₁ j₂ : Journal}

/-- The journal when the work of an agent is started. -/
def beginning (agent : Agent) (j : Journal) : Journal :=
  j.add (.logged .info "Starting resource manager" [("kind", .text agent.kind.label)])

theorem run_ensureStarted_error (hidle : agent.started = false)
    (hcleaner : agent.cleaner = .reaper r)
    {j' : Journal} (hstart : Reaper.start w r (agent.beginning j) = (.error fault, r', j')) :
    ensureStarted w agent j = (.error fault, { cleaner := .reaper r', started := false }, j') := by
  have hwork : startCleaner w agent (agent.beginning j) =
      (.error fault, agent.withCleaner (.reaper r'), j') := by
    rw [startCleaner, run_bind_ok run_get, hcleaner]
    simp only [run_within, hstart]
    rfl
  rw [ensureStarted, run_bind_ok run_get]
  simp only [hidle, Bool.false_eq_true, if_false]
  rw [run_bind_ok (run_log _ _ _)]
  refine (run_bind_error hwork).trans ?_
  rw [withCleaner, hidle]

/-- All that comes before the container is taken down takes no container down. -/
theorem not_killed_before
    (hlaunch : Reaper.launch r w.session w r (agent.beginning j) = (.ok id, r, j₁))
    (hconnect : Reaper.connect id w (r.withContainer id) j₁ = (.error fault, r', j₂)) :
    ∃ steps, j₂.steps w = j.steps w ++ steps ∧ ∀ x ∈ steps, x.killed? = none := by
  obtain ⟨launched, hlaunched, hnone⟩ := (Reaper.not_killed_of_launch r).run hlaunch
  obtain ⟨connecting, hconnecting, hconnects⟩ := (Reaper.connect_does _ _).run hconnect
  refine ⟨.wrote .info "Starting resource manager" [("kind", .text agent.kind.label)] ::
    (launched ++ connecting), ?_, ?_⟩
  · rw [hconnecting, hlaunched, beginning, Journal.steps_add, List.append_assoc, List.append_assoc]
    rfl
  · refine List.forall_mem_cons.mpr ⟨rfl, List.forall_mem_append.mpr ⟨hnone, ?_⟩⟩
    exact hconnects.not_killed

/-- Where the container runs but cannot be connected to, it is taken down by one call and no other,
right after that has come out. The start then ends in the trouble with the connection, whether the
container is taken down or the daemon has trouble of its own with that; and in the trouble with the
call if that is of any other kind. -/
theorem takedown_of_unconnected (hidle : agent.started = false)
    (hcleaner : agent.cleaner = .reaper r) (henabled : r.settings.reaperDisabled = false)
    (hlaunch : Reaper.launch r w.session w r (agent.beginning j) = (.ok id, r, j₁))
    (hconnect : Reaper.connect id w (r.withContainer id) j₁ = (.error fault, r', j₂))
    (hf : fault.problem.isException = true)
    (hkill : (w.answer j₂.events (.client r.client (.killContainer id))).result = answer) :
    ∃ ending j' before lines,
      ensureStarted w agent j =
        (.error ending, { cleaner := .reaper (r.withContainer id), started := false }, j') ∧
      j₂.steps w = j.steps w ++ before ∧
      j'.steps w =
        j₂.steps w ++ .asked (.client r.client (.killContainer id)) answer :: lines ∧
      (before ++ .asked (.client r.client (.killContainer id)) answer :: lines).filterMap
        Step.killed? = [id] ∧
      ((∀ problem, answer = .error problem → problem.isDaemonTrouble = true) → ending = fault) ∧
      ∀ problem, answer = .error problem → problem.isDaemonTrouble = false →
        ending = .of problem := by
  obtain ⟨before, hbefore, hnone⟩ := not_killed_before hlaunch hconnect
  obtain ⟨_, -, hconnects⟩ := (Reaper.connect_does _ _).run hconnect
  obtain rfl := hconnects.eq_of_error
  obtain ⟨lines, j', hends, hsteps, hlines⟩ :=
    Reaper.run_takeDown (r := r.withContainer id) rfl hkill fault
  have hstart := (Reaper.run_start henabled hlaunch hconnect hf).trans hends
  refine ⟨Reaper.endingAfter fault answer, j', before, lines,
    run_ensureStarted_error hidle hcleaner hstart, hbefore, hsteps, ?_, fun hdaemon => ?_,
    fun problem hproblem hother => ?_⟩
  · exact Reaper.killed_once hnone hlines
  · cases answer with
    | ok u => rfl
    | error problem => exact if_pos (hdaemon problem rfl)
  · rw [hproblem, Reaper.endingAfter, hother]
    rfl

/-- A reaper that nothing has been started for. -/
def resting : Reaper where
  client := "client"
  settings := .plain
  host := "localhost"
  patience := usualPatience

def idle : Agent where
  cleaner := .reaper resting

/-- A daemon that runs the reaper's container and is of no help with it: there is no asking after
the container, and trouble with taking it down. -/
def forsaken (problem : Problem) : World :=
  .plain (fun
    | .client _ (.reloadContainer _) => some departed
    | .client _ (.killContainer _) => some problem
    | _ => none)

theorem run_launch_forsaken (problem : Problem) (j : Journal) : ∃ j',
    Reaper.launch resting (forsaken problem).session (forsaken problem) resting j =
      (.ok "helper", resting, j') :=
  ⟨_, rfl⟩

theorem run_connect_forsaken (problem : Problem) (j : Journal) : ∃ j',
    Reaper.connect "helper" (forsaken problem) (resting.withContainer "helper") j =
      (.error (.of departed), resting.withContainer "helper", j') := by
  have hlook : Reaper.lookForPort "client" "helper" (forsaken problem)
      (resting.withContainer "helper") j = (.error (.of departed), resting.withContainer "helper",
        j.afterCall (forsaken problem) (.client "client" (.reloadContainer "helper"))) := rfl
  exact ⟨_, (run_bind_ok run_get).trans ((run_bind_ok run_clock).trans
    (run_bind_error (Reaper.waitForPort_of_trouble hlook)))⟩

/-- What a daemon answers that is asked to take down a container which has stopped by itself. -/
def stopped : Problem := .refused .general "container is not running" (some 409) "" "" ""

/-- The daemon refuses to take the container down as well. The start fails with what it told about
the container, and not with the refusal. -/
theorem takedown_forsaken : ∃ agent' j',
    ensureStarted (forsaken stopped) idle {} = (.error (.of departed), agent', j') ∧
    agent'.started = false ∧
    (j'.steps (forsaken stopped)).filterMap Step.killed? = ["helper"] := by
  obtain ⟨j₁, hlaunch⟩ := run_launch_forsaken stopped (idle.beginning {})
  obtain ⟨j₂, hconnect⟩ := run_connect_forsaken stopped j₁
  obtain ⟨ending, j', before, lines, hrun, hbefore, hsteps, honce, hsame, -⟩ :=
    takedown_of_unconnected (show idle.started = false from rfl) rfl rfl hlaunch hconnect rfl rfl
  have hending : ending = .of departed := by
    refine hsame (fun problem hproblem => ?_)
    cases hproblem
    rfl
  subst hending
  refine ⟨_, j', hrun, rfl, ?_⟩
  rw [hsteps, hbefore]
  exact honce

/-- A connection to the daemon that breaks. -/
def aborted : Problem := .os .connection none "Connection aborted." none

/-- The connection breaks while the container is taken down. The start fails with that, and what it
has failed with before is lost. -/
theorem lost_forsaken :
    departed.isException = true ∧ aborted.isException = true ∧ departed ≠ aborted ∧
    ∃ j₁ j₂ agent' j',
      Reaper.launch resting (forsaken aborted).session (forsaken aborted) resting
        (idle.beginning {}) = (.ok "helper", resting, j₁) ∧
      Reaper.connect "helper" (forsaken aborted) (resting.withContainer "helper") j₁ =
        (.error (.of departed), resting.withContainer "helper", j₂) ∧
      ensureStarted (forsaken aborted) idle {} = (.error (.of aborted), agent', j') := by
  obtain ⟨j₁, hlaunch⟩ := run_launch_forsaken aborted (idle.beginning {})
  obtain ⟨j₂, hconnect⟩ := run_connect_forsaken aborted j₁
  obtain ⟨lines, j', hends, -, -⟩ :=
    Reaper.run_takeDown (w := forsaken aborted) (j := j₂) (r := resting.withContainer "helper") rfl
      rfl (.of departed)
  have hstart := (Reaper.run_start rfl hlaunch hconnect rfl).trans hends
  have hrun := run_ensureStarted_error (show idle.started = false from rfl) rfl hstart
  exact ⟨rfl, rfl, nofun, j₁, j₂, _, j', hlaunch, hconnect, hrun⟩

end Agent

end Mooring
