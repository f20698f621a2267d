import Mooring.Proofs.Connection.Use
import Mooring.Proofs.Plain

/-! The release of a connection. It lets go of what its agent holds before it closes its client, and
trouble with the first ends it before the second: the client is closed and let go exactly if the
agent's handle can be closed. -/

namespace Mooring

open Mooring.Action

variable {w : World} {j : Journal}

/-! ### The agent's handle -/

/-- What an agent holds until it is closed: the socket of a reaper, or the input of a side
process. -/
inductive Handle where
  | ofSocket (socket : Socket)
  | processInput
  deriving DecidableEq, Repr

/-- The call that closes a handle. -/
def Handle.closing : Handle → Call
  | .ofSocket socket => .socket (.close socket)
  | .processInput => .closeProcessInput

theorem Handle.aside_closing (handle : Handle) (w : World) (j : Journal) :
    j.Aside (j.afterCall w handle.closing) := by
  cases handle with
  | ofSocket socket =>
    have haside : (Event.called (.socket (.close socket))).isAside = true := rfl
    exact .call haside w j
  | processInput =>
    have haside : (Event.called .closeProcessInput).isAside = true := rfl
    exact .call haside w j

theorem Reaper.close_of_socket {r : Reaper} {socket : Socket} (h : r.socket = some socket) :
    Reaper.close w r j = (do
      call (.socket (.close socket))
      modify (fun r => { r with socket := none }) : Action Reaper Unit) w r j := by
  rw [Reaper.close, run_bind_ok run_get, h]

namespace Agent

/-- The handle of an agent. One that was never started has none, and neither has one whose process
has no input. -/
def handle? (agent : Agent) : Option Handle :=
  match agent.cleaner with
  | .reaper r => r.socket.map .ofSocket
  | .sidecar s => if s.process.any Process.hasInput then some .processInput else none

theorem close_of_sidecar {agent : Agent} {s s' : Sidecar} {result : Except Fault Unit}
    {j' : Journal} (hcleaner : agent.cleaner = .sidecar s)
    (h : Sidecar.close w s j = (result, s', j')) :
    close w agent j = (result, agent.withCleaner (.sidecar s'), j') := by
  rw [close, run_bind_ok run_get, hcleaner]
  simp only [run_within, h]
  rfl

theorem close_of_reaper {agent : Agent} {r r' : Reaper} {result : Except Fault Unit} {j' : Journal}
    (hcleaner : agent.cleaner = .reaper r) (h : Reaper.close w r j = (result, r', j')) :
    close w agent j = (result, agent.withCleaner (.reaper r'), j') := by
  rw [close, run_bind_ok run_get, hcleaner]
  simp only [run_within, h]
  rfl

theorem close_of_idle {agent : Agent} (h : agent.handle? = none) :
    close w agent j = (.ok (), agent, j) := by
  obtain ⟨⟨settings, _ | ⟨pid, _ | _⟩⟩ | ⟨client, settings, host, patience, container, _ | socket⟩,
    started⟩ := agent
  · rfl
  · rfl
  · cases h
  · rfl
  · cases h

/-- An agent's handle is closed by one call; trouble with it ends the closing, and leaves the agent
as it was. -/
theorem close_of_handle {agent : Agent} {handle : Handle} (h : agent.handle? = some handle) :
    (∀ answer, (w.answer j.events handle.closing).result = .ok answer →
      ∃ agent', close w agent j = (.ok (), agent', j.afterCall w handle.closing)) ∧
    ∀ problem, (w.answer j.events handle.closing).result = .error problem →
      close w agent j = (.error (.of problem), agent, j.afterCall w handle.closing) := by
  obtain ⟨⟨settings, _ | ⟨pid, _ | _⟩⟩ | ⟨client, settings, host, patience, container, _ | socket⟩,
    started⟩ := agent
  · cases h
  · cases h
  · cases h
    refine ⟨fun answer hr => ?_, fun problem hr => ?_⟩
    · exact ⟨_, close_of_sidecar rfl (run_call_ok hr)⟩
    · exact close_of_sidecar rfl (run_call_error hr)
  · cases h
  · cases h
    refine ⟨fun answer hr => ?_, fun problem hr => ?_⟩
    · exact ⟨_, close_of_reaper rfl
        ((Reaper.close_of_socket rfl).trans (run_bind_ok (run_call_ok hr)))⟩
    · exact close_of_reaper rfl
        ((Reaper.close_of_socket rfl).trans (run_bind_error (run_call_error hr)))

end Agent

namespace Connection

variable {c : Connection}

/-- What the agent of a connection holds. -/
def handle? (c : Connection) : Option Handle := c.agent.bind Agent.handle?

/-- The agent has no handle, or the world lets it be closed. -/
def LetsGo (w : World) (c : Connection) (past : List Event) : Prop :=
  ∀ handle problem, c.handle? = some handle →
    (w.answer past handle.closing).result ≠ .error problem

theorem closeAgent_of_letting (h : c.LetsGo w j.events) :
    ∃ agent j', closeAgent w c j = (.ok (), { c with agent }, j') ∧ j.Aside j' := by
  cases hagent : c.agent with
  | none =>
    have hsame : { c with agent := none } = c := by rw [← hagent]
    refine ⟨none, j, ?_, .refl _ j⟩
    rw [closeAgent, run_bind_ok run_get, hagent, hsame]
    rfl
  | some agent =>
    have hrun : closeAgent w c j = within putAgent agent Agent.close w c j := by
      rw [closeAgent, run_bind_ok run_get, hagent]
    cases hhandle : agent.handle? with
    | none =>
      refine ⟨some agent, j, ?_, .refl _ j⟩
      rw [hrun, run_within, Agent.close_of_idle hhandle]
      rfl
    | some handle =>
      have hheld : c.handle? = some handle := by rw [Connection.handle?, hagent]; exact hhandle
      cases hr : (w.answer j.events handle.closing).result with
      | error problem => exact absurd hr (h handle problem hheld)
      | ok answer =>
        obtain ⟨agent', hclose⟩ := (Agent.close_of_handle hhandle).1 answer hr
        refine ⟨some agent', _, ?_, handle.aside_closing w j⟩
        rw [hrun, run_within, hclose]
        rfl

theorem closeAgent_of_trouble {handle : Handle} {problem : Problem} (h : c.handle? = some handle)
    (htrouble : (w.answer j.events handle.closing).result = .error problem) :
    closeAgent w c j = (.error (.of problem), c, j.afterCall w handle.closing) := by
  obtain ⟨agent, hagent, hhandle⟩ := Option.bind_eq_some_iff.mp h
  have hclose := (Agent.close_of_handle hhandle).2 problem htrouble
  have hput : putAgent agent c = c := by rw [putAgent, ← hagent]
  rw [closeAgent, run_bind_ok run_get, hagent]
  simp only [run_within, hclose, hput]

/-- The client of a connection is closed by one call and let go. -/
theorem closeRoute_of_held {route : Route} {k : Client} (hchosen : c.chosen = some route)
    (hheld : route.held = some k)
    (hk : ∀ events problem, (w.answer events (.client k .close)).result = .error problem →
      problem.isException = true) (j : Journal) :
    ∃ j', closeRoute w c j = (.ok (), putRoute route.released c, j') ∧
      (j.afterCall w (.client k .close)).Aside j' := by
  obtain ⟨j', hclose, hj⟩ := Route.closeQuietly_of_uninterrupted hk route j
  refine ⟨j', ?_, hj⟩
  rw [closeRoute, run_bind_ok run_get, hchosen]
  simp only [run_within, close_of_held hheld, run_bind_ok hclose, run_modify]
  rfl

/-- Closing a connection that holds a client. If the agent lets go, the client is closed by exactly
one call and let go, whatever comes of the call. If the agent's handle cannot be closed, closing
ends in that trouble after this one call: no client is closed, and the connection is as it was, its
client still at hand. -/
theorem release_of_close {route : Route} {k : Client} (hchosen : c.chosen = some route)
    (hheld : route.held = some k)
    (hk : ∀ events problem, (w.answer events (.client k .close)).result = .error problem →
      problem.isException = true) (j : Journal) :
    ∃ result c' j', close w c j = (result, c', j') ∧
      (c.LetsGo w j.events →
        result = .ok () ∧ c'.chosen = some route.released ∧ j'.closed = j.closed ++ [k]) ∧
      (∀ handle problem, c.handle? = some handle →
        (w.answer j.events handle.closing).result = .error problem →
        result = .error (.of problem) ∧ c' = c ∧ j' = j.afterCall w handle.closing ∧
          (c.initialized = true → ∀ j'', client w c' j'' = (.ok k, c', j''))) ∧
      (j'.closed = j.closed ++ [k] ∧ c'.holding = [] ↔ c.LetsGo w j.events) := by
  by_cases hgo : c.LetsGo w j.events
  · obtain ⟨agent, j₁, hagent, haside⟩ := closeAgent_of_letting hgo
    obtain ⟨j', hroute, hj⟩ :=
      closeRoute_of_held (c := { c with agent }) hchosen hheld hk j₁
    have hbooks : j'.books w = j.books w ++ { closed := [k] } := by
      rw [Journal.books_of_aside hj w, Journal.books_afterCall, Event.entry_closed,
        Journal.books_of_aside haside w]
    have hclosed : j'.closed = j.closed ++ [k] := congrArg Books.closed hbooks
    refine ⟨.ok (), _, j', (run_bind_ok hagent).trans hroute, fun _ => ⟨rfl, rfl, hclosed⟩, ?_, ?_⟩
    · intro handle problem hhandle htrouble
      exact absurd htrouble (hgo handle problem hhandle)
    · exact ⟨fun _ => hgo, fun _ => ⟨hclosed, rfl⟩⟩
  · have hstuck : ∃ handle problem, c.handle? = some handle ∧
        (w.answer j.events handle.closing).result = .error problem := by
      simpa [LetsGo] using hgo
    obtain ⟨handle, problem, hhandle, htrouble⟩ := hstuck
    refine ⟨_, c, _, run_bind_error (closeAgent_of_trouble hhandle htrouble),
      fun h => absurd h hgo, ?_, ?_⟩
    · intro handle' problem' hhandle' htrouble'
      rw [hhandle] at hhandle'
      cases hhandle'
      rw [htrouble] at htrouble'
      cases htrouble'
      exact ⟨rfl, rfl, rfl, fun hinit j'' => client_of_held hinit hchosen hheld w j''⟩
    · refine ⟨fun h => ?_, fun h => absurd h hgo⟩
      have hholding : c.holding = [k] := by simp [holding, hchosen, hheld]
      rw [hholding] at h
      cases h.2

/-- A world in which no client can be closed properly. -/
def clingingWorld : World := World.plain (fun c => match c with
  | .client _ .close => some (.runtime "already closed")
  | _ => none)

/-- A connection over a supplied route, whose reaper holds a socket. -/
def reaping : Connection where
  settings := .plain
  candidates := none
  stage := .resolved
  initialized := true
  chosen := some
    { way := .supplied "own" "own" .unixSocket, settings := .plain, held := some "own" }
  agent := some
    { cleaner := .reaper
        { client := "own", settings := .plain, host := "localhost", patience := Agent.usualPatience
          socket := some 3 }
      started := true }

/-- The socket is closed, and so is the client, by one call that fails. -/
theorem release_reaping : ∃ c' j', close clingingWorld reaping {} = (.ok (), c', j') ∧
    c'.holding = [] ∧ j'.closed = ["own"] := by
  have hk : ∀ events problem,
      (clingingWorld.answer events (.client "own" .close)).result = .error problem →
        problem.isException = true := by
    intro events problem h
    have h : (Except.error (.runtime "already closed") : Except Problem Unit) = .error problem := h
    cases h
    rfl
  have hgo : reaping.LetsGo clingingWorld [] := by
    intro handle problem hhandle h
    cases hhandle
    cases h
  obtain ⟨result, c', j', hclose, hreleased, -, hiff⟩ :=
    release_of_close (c := reaping) rfl rfl hk {}
  obtain ⟨rfl, -, hclosed⟩ := hreleased hgo
  obtain ⟨-, hholding⟩ := hiff.mpr hgo
  exact ⟨c', j', hclose, hholding, hclosed⟩

def brokenPipe : Problem := .os .brokenPipe (some 32) "Broken pipe" none

/-- A Windows daemon, and a side process whose pipe is broken when it is closed. -/
def severedWorld : World :=
  { World.plain (fun _ => none) with
    answer := fun _ c => match c with
      | .client _ .info => { result := .ok (.object [("Driver", .text Daemon.windowsDriver)]) }
      | .startProcess _ _ _ => { result := .ok { pid := 1, hasInput := true } }
      | .closeProcessInput => { result := .error brokenPipe }
      | c => { result := .ok c.plain } }

def fresh : Connection := { settings := .plain, candidates := some [Route.supplied "own"] }

/-- Starts the agent, and closes. -/
def visit : Action Connection (Except Fault Unit) := do
  let _ ← startedAgent
  attempt close

/-- The route over which this connection comes to stand. -/
def own : Route := { Route.supplied "own" with held := some "own", host := some "localhost" }

/-- A plain daemon is not too old for plain settings. -/
theorem checkVersion_plain {σ : Type} (w : World) (s : σ) (j : Journal) :
    checkVersion Settings.plain.minimumVersion (.text "24.0.7") w s j =
      (.ok (), s, j.add (.logged .info "Docker version is supported"
        [("version", .text "24.0.7"), ("minimum", .text "1.6.0")])) := by
  have hparts : Version.compareParts [24, 0, 7] [1, 6, 0] = .gt := by
    rw [Version.compareParts]
    rfl
  have hnewer : Version.atLeast ⟨some "24.0.7", [24, 0, 7]⟩ ⟨some "1.6.0", [1, 6, 0]⟩ = true := by
    rw [Version.atLeast, Version.compare, hparts]
    rfl
  have hsupported : isAtLeast "24.0.7" Settings.plain.minimumVersion = .ok true :=
    congrArg Except.ok hnewer
  rw [checkVersion, run_bind, run_ofExcept, hsupported]
  rfl

/-- A connection that is made and used in the regular way ends its closing in the broken pipe: the
one client that was opened is not closed, and the connection still holds it. -/
theorem unreleased_severed : ∃ c j,
    visit severedWorld fresh {} = (.ok (.error (.of brokenPipe)), c, j) ∧
    brokenPipe.isOsTrouble = true ∧ c.Stands .resolved ∧ c.holding = ["own"] ∧
    j.opened severedWorld = ["own"] ∧ j.closed = [] := by
  have hchoose : Route.choose fresh.routes severedWorld fresh.attempting {} =
      (.ok (.ok own, [own]), fresh.attempting, _) := rfl
  -- eight steps lead to the check of the version, the one step that does not evaluate
  have hinspect (j : Journal) :
      inspect fresh.settings own severedWorld (fresh.havingTried [own]) j =
        (.ok _, fresh.havingTried [own], _) :=
    (run_bind_ok rfl).trans <| (run_bind_ok rfl).trans <| (run_bind_ok rfl).trans <|
    (run_bind_ok rfl).trans <| (run_bind_ok rfl).trans <| (run_bind_ok rfl).trans <|
    (run_bind_ok rfl).trans <| (run_bind_ok rfl).trans <|
    (run_bind_ok (checkVersion_plain _ _ _)).trans rfl
  have hclient := client_of_linked rfl rfl rfl (resolve_of_inspected hchoose (hinspect _))
  have hvisit : visit severedWorld fresh {} = (.ok (.error (.of brokenPipe)), _, _) :=
    (run_bind_ok ((run_bind_ok hclient).trans rfl)).trans rfl
  exact ⟨_, _, hvisit, rfl, ⟨rfl, rfl, rfl, rfl, rfl, rfl⟩, rfl, rfl, rfl⟩

end Connection

end Mooring
