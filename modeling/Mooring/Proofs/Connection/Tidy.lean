import Mooring.Proofs.Connection.Release
import Mooring.Proofs.Route.Ordinary

/-! A connection whose agent is never started. Making it and using it leaves no helper container
behind, and its agent holds nothing that its closing could fail on. -/

namespace Mooring.Connection

open Mooring.Action

variable {σ α : Type} {w : World} {inv : σ → Prop} {c : Connection} {j : Journal}

/-- The agent of a connection, if there is one, holds nothing. -/
def Idle (c : Connection) : Prop := c.handle? = none

/-! ### Inspection -/

theorem takes_checkVersion (minimum : String) (version : Value) :
    Takes w .ordinary inv (checkVersion minimum version : Action σ Unit) := by
  unfold checkVersion
  split
  · refine .bind (.ofExcept _) (fun supported => .ite (.log rfl) ?_)
    exact .bind (.log rfl) (fun _ => .failWith _)
  · exact .fail _

/-- A kind of stretches that ordinary ones are of, and those in which the disk space is checked.
Then all that is done to get a client is of that kind. -/
structure Spans (w : World) (kind : Stretch) : Prop where
  ordinary : ∀ steps, Stretch.ordinary.holds steps → kind.holds steps
  check : ∀ client image requiredMb,
    Takes w kind Idle (DiskUsage.check client image requiredMb : Action Connection DiskUsage)

theorem spans_tidy : Spans w (.tidy none) where
  ordinary _ hsteps := .ordinary hsteps none
  check := takes_check

section Spans

variable {kind : Stretch} (hk : Spans w kind)

include hk

theorem Spans.takes {act : Action Connection α} (h : Takes w .ordinary Idle act) :
    Takes w kind Idle act := h.mono hk.ordinary

theorem Spans.appraise (settings : Settings) (client : Client) (host : String)
    (info version : Value) :
    Takes w kind Idle (appraise settings client host info version : Action Connection Link) := by
  refine .bind (.ofExcept _) (fun daemon => .bind (hk.takes (.log rfl)) (fun _ => ?_))
  refine .bind (hk.takes (.log rfl)) (fun _ => ?_)
  refine .bind (hk.takes (takes_checkVersion _ _)) (fun _ => ?_)
  have selects : Takes w kind Idle (do
      let agent ← ofExcept (Agent.select daemon client host settings)
      return { daemon, agent } : Action Connection Link) := .bind (.ofExcept _) (fun _ => .pure _)
  exact .ite selects (.bind (hk.check _ _ _) (fun _ => selects))

theorem Spans.inspect (settings : Settings) (route : Route) :
    Takes w kind Idle (inspect settings route : Action Connection Link) := by
  refine .bind (hk.takes route.takes_client) (fun client => ?_)
  refine .bind (hk.takes route.takes_hostAddress) (fun host => ?_)
  refine .bind (hk.takes (.log rfl)) (fun _ => ?_)
  refine .bind (hk.takes (.call (fun _ => rfl))) (fun info => ?_)
  exact .bind (hk.takes (.call (fun _ => rfl))) (fun version => hk.appraise _ _ _ _ _)

end Spans

/-- An agent that has just been selected holds nothing. -/
theorem handle?_of_select {daemon : Daemon} {client : Client} {host : String}
    {settings : Settings} {agent : Agent}
    (h : Agent.select daemon client host settings = .ok agent) : agent.handle? = none := by
  obtain ⟨windows, -, h⟩ := exists_of_bind_eq_ok h
  split at h <;> cases h <;> rfl

/-- The link's agent holds nothing. -/
def Fresh (link : Link) : Prop := link.agent.handle? = none

theorem yields_inspect (settings : Settings) (route : Route) :
    Yields w Fresh (inspect settings route : Action σ Link) := by
  have selects (daemon : Daemon) (client : Client) (host : String) : Yields w Fresh (do
      let agent ← ofExcept (Agent.select daemon client host settings)
      return { daemon, agent } : Action σ Link) :=
    .bind (.ofExcept (fun _ => handle?_of_select)) (fun _ hagent => .pure hagent)
  refine .last (fun client => .last (fun host => .last (fun _ => .last (fun info => ?_))))
  refine .last (fun version => .last (fun daemon => .last (fun _ => .last (fun _ => ?_))))
  exact .last (fun _ => .ite (selects _ _ _) (.last (fun _ => selects _ _ _)))

/-! ### The attempt -/

theorem takes_giveUp {kind : Stretch} (fault : Fault) :
    Takes w kind Idle (giveUp fault : Action Connection α) :=
  .ite (.bind (.modify (fun _ => id)) (fun _ => .fail _)) (.fail _)

section Spans

variable {kind : Stretch} (hk : Spans w kind)

include hk

theorem Spans.resolveOver (settings : Settings) (route : Route) :
    Takes w kind Idle (resolveOver settings route) := by
  refine .known (.attempt (hk.inspect settings route)) (yields_inspect settings route).attempt ?_
  intro inspected hfresh
  cases inspected with
  | ok link => exact .modify (fun _ _ => hfresh link rfl)
  | error fault =>
    have closes : Takes w kind Idle (runOn route Route.close) :=
      .runOn (Route.takes_close.mono hk.ordinary) trivial
    refine .ite (.bind closes (fun closed => ?_)) (takes_giveUp fault)
    exact .bind (.ofResult _) (fun _ => takes_giveUp fault)

theorem Spans.resolve : Takes w kind Idle resolve := by
  refine .bind (.modify (fun _ => id)) (fun _ => .bind .get (fun c => ?_))
  refine .bind (hk.takes (Route.takes_chooseAfter [] _)) (fun found => ?_)
  refine .bind (.modify (fun _ => id)) (fun _ => ?_)
  split
  · exact takes_giveUp _
  · exact hk.resolveOver _ _

theorem Spans.ensureResolved : Takes w kind Idle ensureResolved := by
  refine .bind .get (fun c => .ite (.pure _) ?_)
  split
  · exact .fail _
  · exact hk.resolve

end Spans

/-! ### Use -/

theorem takes_partOf {β : Type} {kind : Stretch} (part : Option β) (member : String) :
    Takes w kind inv (partOf part member : Action σ β) := by
  unfold partOf
  split
  · exact .pure _
  · exact .fail _

theorem Spans.client {kind : Stretch} (hk : Spans w kind) : Takes w kind Idle client := by
  refine .bind hk.ensureResolved (fun _ => .bind .get (fun c => ?_))
  exact .bind (takes_partOf _ _) (fun route => hk.takes route.takes_client)

theorem takes_client : Takes w (.tidy none) Idle client := spans_tidy.client

theorem takes_daemon : Takes w (.tidy none) Idle daemon :=
  .bind takes_client (fun _ => .bind .get (fun _ => takes_partOf _ _))

theorem takes_routeFor (what : String) {kind : Stretch} {inv : Connection → Prop} :
    Takes w kind inv (routeFor what) := by
  refine .bind .get (fun c => ?_)
  split
  · exact .pure _
  · exact .failWith _

theorem takes_hostAddress : Takes w (.tidy none) Idle hostAddress :=
  .bind (takes_routeFor _) (fun route => route.takes_hostAddress.tidy none)

theorem takes_runInside {adjust : Action HelperSpec Unit}
    (hadjust : Takes w .ordinary (fun _ => True) adjust)
    {work : Client → ResourceId → Action Connection α}
    (hwork : ∀ client id, Takes w (.tidy (some (client, id))) Idle (work client id)) :
    Takes w (.tidy none) Idle (runInside adjust work) := by
  refine .bind takes_client (fun client => .bind .get (fun c => ?_))
  refine .bind ((takes_ensureImage _ _).tidy none) (fun _ => .bind .read (fun w => ?_))
  refine .bind (.runOn (hadjust.tidy none) trivial) (fun adjusted => .bind (.ofResult _) ?_)
  exact fun _ => takes_withHelper client _ (hwork client)

/-! ### The end -/

theorem closeAgent_of_idle (hc : c.Idle) (w : World) (j : Journal) :
    closeAgent w c j = (.ok (), c, j) := by
  rw [closeAgent, run_bind_ok run_get]
  cases hagent : c.agent with
  | none => rfl
  | some agent =>
    have hnone : agent.handle? = none := by
      rw [Idle, handle?, hagent] at hc
      exact hc
    have hput : putAgent agent c = c := by rw [putAgent, ← hagent]
    simp only [run_within, Agent.close_of_idle hnone, hput]

theorem takes_closeRoute : Takes w .ordinary Idle closeRoute := by
  refine .bind .get (fun c => ?_)
  split
  · exact .within Route.takes_close trivial (fun _ _ _ => id)
  · exact .pure _

theorem takes_close : Takes w .ordinary Idle close := by
  have closes : Takes w .ordinary Idle closeAgent := fun c hc j => by
    rw [closeAgent_of_idle hc]
    exact ⟨[], (List.append_nil _).symm, Stretch.ordinary.nil, hc⟩
  exact .bind closes (fun _ => takes_closeRoute)

/-- Closing the route comes to its end, and no client is held afterwards. -/
theorem closeRoute_run (hw : w.Calm) (c : Connection) (j : Journal) :
    ∃ c' j', closeRoute w c j = (.ok (), c', j') ∧ c'.holding = [] := by
  cases hchosen : c.chosen with
  | none =>
    refine ⟨c, j, ?_, holding_of_unchosen hchosen⟩
    rw [closeRoute, run_bind_ok run_get, hchosen]
    rfl
  | some route =>
    cases hheld : route.held with
    | none =>
      have hclose : Route.close w route j = (.ok (), route, j) := by
        rw [Route.close, run_bind_ok run_get, hheld]
        rfl
      refine ⟨putRoute route c, j, ?_, by simp [holding, putRoute, hheld]⟩
      rw [closeRoute, run_bind_ok run_get, hchosen]
      simp only [run_within, hclose]
    | some k =>
      have hk (events : List Event) := hw.answers events (.client k .close)
      obtain ⟨j', hclose, -⟩ := closeRoute_of_held hchosen hheld hk j
      exact ⟨_, j', hclose, rfl⟩

/-- An idle connection is closed without trouble, and no client is held afterwards. -/
theorem close_does (hw : w.Calm) (hc : c.Idle) :
    Does w close c (fun steps r c' => (∀ x ∈ steps, x.isOrdinary = true) ∧ r = .ok () ∧
      c'.holding = []) := by
  intro j
  obtain ⟨steps, hsteps, hordinary, -⟩ := takes_close (w := w) c hc j
  obtain ⟨c', j', hroute, hheld⟩ := closeRoute_run hw c j
  refine ⟨steps, hsteps, hordinary, ?_⟩
  rw [close, run_bind_ok (closeAgent_of_idle hc w j), hroute]
  exact ⟨rfl, hheld⟩

end Mooring.Connection
