import Mooring.Proofs.Connection.Stages
import Mooring.Proofs.Connection.Tidy

/-! What is to be had of a connection, and when. Before it stands, neither its route nor its host is
there. From then on both are there for ever; but its client only until it is closed, and after that
everything that needs the client is refused as if the connection had never been made. -/

namespace Mooring.Connection

open Mooring.Action

variable {α : Type} {w : World} {closes : Bool} {c c' : Connection} {r : Route} {host : String}
  {j j' : Journal}

/-! ### Hosts -/

/-- A route that has been inspected knows its host. -/
theorem host_of_inspect {settings : Settings} {link : Link}
    (h : inspect settings r w c j = (.ok link, c', j')) : ∃ host, r.host = some host := by
  obtain ⟨client, c₁, j₁, -, hrest⟩ := exists_of_run_bind_ok h
  obtain ⟨host, c₂, j₂, hanswers, -⟩ := exists_of_run_bind_ok hrest
  exact ⟨host, (Route.hostAddress_eq_ok hanswers).1⟩

/-- So does the route of a connection that has just been made. -/
theorem host_of_resolve (hw : w.Calm) (h : resolve w c j = (.ok (), c', j')) :
    ∃ r host, c'.chosen = some r ∧ r.host = some host := by
  obtain ⟨chosen, tried, books, j₁, hchoose, -, hsearched⟩ :=
    Route.chooseAfter_cases hw c.routes [] c.attempting j
  cases chosen with
  | error fault =>
    rw [resolve_of_unchosen (hsearched.exception fault rfl) hchoose] at h
    cases h
  | ok route =>
    obtain ⟨k, hheld⟩ := hsearched.held route rfl
    have hasks := endsAsking_inspect w c.settings route (c.havingTried tried) j₁
    rcases hinspect : inspect c.settings route w (c.havingTried tried) j₁ with ⟨result, s, j₂⟩
    rw [hinspect] at hasks
    obtain rfl : s = c.havingTried tried := hasks.kept
    cases result with
    | ok link =>
      obtain ⟨host, hhost⟩ := host_of_inspect hinspect
      rw [resolve_of_inspected hchoose hinspect] at h
      cases h
      exact ⟨route, host, rfl, hhost⟩
    | error fault =>
      obtain ⟨j₃, hresolve, -⟩ :=
        resolve_of_uninspected hw (hasks.allowed fault rfl hw) hheld hchoose hinspect
      rw [hresolve] at h
      cases h

/-- Letting go of its client, a route keeps its host. -/
theorem host_of_released {r r' : Route} (h : r'.released = r.released) : r'.host = r.host := by
  have hhost : r'.released.host = r.released.host := congrArg Route.host h
  exact hhost

/-- A connection keeps its route but for the client. -/
theorem Keeps.route (h : Keeps w closes c j c' j') (hchosen : c.chosen = some r) :
    ∃ r', c'.chosen = some r' ∧ r'.released = r.released := by
  have hreleased := h.chosen
  rw [hchosen, Option.map_some] at hreleased
  exact Option.map_eq_some_iff.mp hreleased

theorem Passage.host_of_resolved (hw : w.Calm) (hc : c.Stands .unresolved)
    (h : Passage w closes c j c' j') (hc' : c'.Stands .resolved) :
    ∃ r host, c'.chosen = some r ∧ r.host = some host := by
  cases h with
  | keeps h => exact absurd ((h.stands hc).unique hc') nofun
  | settles unresolved before attempt after =>
    rcases stands_of_resolve hw unresolved attempt with ⟨-, rfl⟩ | ⟨fault, hc₁, -, -⟩
    · obtain ⟨r, host, hchosen, hhost⟩ := host_of_resolve hw attempt
      obtain ⟨r', hchosen', hreleased⟩ := after.route hchosen
      exact ⟨r', host, hchosen', (host_of_released hreleased).trans hhost⟩
    · exact absurd ((after.stands hc₁).unique hc') nofun

/-! ### What is answered -/

/-- The failure of whoever asks for something that is not there yet. -/
def missing (what : String) : Fault := .ofFailure (.notYetResolved what)

/-- A connection of which nothing is to be had yet. -/
structure Withholds (w : World) (c : Connection) : Prop where
  hostAddress : ∀ j, hostAddress w c j = (.error (missing "Docker host address"), c, j)
  route : ∀ j, route w c j = (.error (missing "Active connection strategy"), c, j)

theorem withholds_of_unchosen (hchosen : c.chosen = none) (w : World) : Withholds w c := by
  have hroute (what : String) (j : Journal) :
      routeFor what w c j = (.error (missing what), c, j) := by
    rw [routeFor, run_bind_ok run_get, hchosen]
    rfl
  exact ⟨fun j => run_bind_error (hroute _ j), fun j => hroute _ j⟩

/-- A connection that stands over a route, and answers the route and its host. Asking it for the
client is asking the route. -/
structure Serves (w : World) (c : Connection) (r : Route) (host : String) : Prop where
  hostAddress : ∀ j, hostAddress w c j = (.ok host, c, j)
  route : ∀ j, route w c j = (.ok r, c, j)
  client : ∀ j, client w c j = r.client w c j

theorem serves_of_chosen (hinit : c.initialized = true) (hchosen : c.chosen = some r)
    (hhost : r.host = some host) (w : World) : Serves w c r host := by
  have hroute (what : String) (j : Journal) : routeFor what w c j = (.ok r, c, j) := by
    rw [routeFor, run_bind_ok run_get, hchosen]
    rfl
  refine ⟨fun j => ?_, fun j => hroute _ j, fun j => ?_⟩
  · rw [Connection.hostAddress, run_bind_ok (hroute _ j), Route.hostAddress, hhost]
    rfl
  · rw [Connection.client, run_bind_ok (ensureResolved_of_initialized hinit), run_bind_ok run_get,
      hchosen]
    rfl

/-- The failure of whoever asks a route for a client that it does not hold. -/
def clientMissing (w : World) (r : Route) : Fault :=
  missing ("Client of strategy " ++ Value.quote (r.describeIn w.environment))

theorem clientMissing_released (w : World) (r : Route) :
    clientMissing w r.released = clientMissing w r := by
  have hsame : r.released.describeIn w.environment = r.describeIn w.environment := rfl
  rw [clientMissing, hsame, clientMissing]

/-- Whether there is a client depends on nothing but the route. -/
theorem Serves.client_iff (h : Serves w c r host) (j : Journal) :
    (∃ k, Connection.client w c j = (.ok k, c, j)) ↔ r.held.isSome = true := by
  rw [h.client, Route.client]
  cases r.held with
  | none =>
    constructor
    · rintro ⟨k, hclient⟩
      cases hclient
    · intro hheld
      cases hheld
  | some k => exact ⟨fun _ => rfl, fun _ => ⟨k, rfl⟩⟩

theorem Serves.refuses (h : Serves w c r host) (hheld : r.held = none) (j : Journal) :
    Refuses w (clientMissing w r) c j := by
  refine refuses_of_client ?_
  rw [h.client, Route.client, hheld]
  rfl

/-! ### After closing -/

/-- A route that serves later is the same but for its client, and what it has let go of is gone. -/
theorem Keeps.serves (h : Keeps w closes c j c' j') (hc : c.Stands .resolved)
    (hchosen : c.chosen = some r) (hhost : r.host = some host) :
    ∃ r', c'.chosen = some r' ∧ r'.released = r.released ∧ Serves w c' r' host ∧
      (r.held = none → r' = r) ∧ (closes = false → r' = r) := by
  obtain ⟨r', hchosen', hreleased⟩ := h.route hchosen
  obtain ⟨-, hinit, -⟩ := hc
  have hhost' : r'.host = some host := (host_of_released hreleased).trans hhost
  refine ⟨r', hchosen', hreleased,
    serves_of_chosen (h.initialized_eq.trans hinit) hchosen' hhost' w, ?_, ?_⟩
  · intro hheld
    obtain ⟨clients, -, hperm, -⟩ := h.closed
    have hnone : c.holding = [] := by simp [holding, hchosen, hheld]
    rw [hnone, List.nil_perm, List.append_eq_nil_iff] at hperm
    have hheld' : r'.held = none := by simpa [holding, hchosen'] using hperm.1
    exact Route.eq_of_released hreleased (hheld'.trans hheld.symm)
  · rintro rfl
    rw [h.chosen_eq, hchosen] at hchosen'
    exact (Option.some.inj hchosen').symm

/-- Closing lets go of the client, or ends in trouble with the agent and changes nothing. -/
theorem close_cases (hw : w.Calm) {result : Except Fault Unit}
    (h : close w c j = (result, c', j')) :
    result = .ok () ∧ c'.holding = [] ∨ ∃ fault, result = .error fault ∧ c' = c := by
  by_cases hgo : c.LetsGo w j.events
  · obtain ⟨agent, j₁, hagent, -⟩ := closeAgent_of_letting hgo
    obtain ⟨c₁, j₂, hroute, hheld⟩ := closeRoute_run hw { c with agent } j₁
    rw [close, run_bind_ok hagent, hroute] at h
    cases h
    exact .inl ⟨rfl, hheld⟩
  · have hstuck : ∃ handle problem, c.handle? = some handle ∧
        (w.answer j.events handle.closing).result = .error problem := by
      simpa [LetsGo] using hgo
    obtain ⟨handle, problem, hhandle, htrouble⟩ := hstuck
    rw [close, run_bind_error (closeAgent_of_trouble hhandle htrouble)] at h
    cases h
    exact .inr ⟨_, rfl, rfl⟩

/-- A connection that has been closed stands, and serves as before but without a client. -/
theorem serves_of_close (hw : w.Calm) (hc : c.Stands .resolved) (hchosen : c.chosen = some r)
    (hhost : r.host = some host) (h : close w c j = (.ok (), c', j')) :
    c'.Stands .resolved ∧ Serves w c' r.released host := by
  have hcourse := lawful_close hw c .resolved j hc
  rw [h] at hcourse
  have hkeeps : Keeps w true c j c' j' := hcourse.passage.keeps_of_settled hc nofun
  obtain ⟨r', hchosen', hreleased, hserves, -⟩ := hkeeps.serves hc hchosen hhost
  rcases close_cases hw h with ⟨-, hheld⟩ | ⟨_, ⟨⟩, -⟩
  have hlet : r'.held = none := by simpa [holding, hchosen'] using hheld
  obtain rfl : r' = r.released := Route.eq_of_released hreleased hlet
  exact ⟨hkeeps.stands hc, hserves⟩

/-- What is to be had of a connection after every use from its beginning. Unless it stands, neither
its host nor its route. If it stands, both of them, and they stay the same whatever follows; and its
client exactly if its route holds one, which it does if nothing was ever closed. Closing it, unless
the agent is in the way, takes the client away for good: from then on everything that needs the
client is refused with the words for what is not there before the connection is made, while the
connection stands and its host and its route are answered as before. -/
theorem availability_of_use (hw : w.Calm) (settings : Settings) (candidates : Option (List Route))
    {act : Action Connection α} (h : Use w closes act) {result : Except Fault α}
    (hrun : act w { settings, candidates } j = (result, c, j')) :
    (c.stage ≠ .resolved → Withholds w c) ∧
    (c.stage = .resolved → ∃ r host, Serves w c r host ∧
      (∀ i, (∃ k, client w c i = (.ok k, c, i)) ↔ r.held.isSome = true) ∧
      (closes = false → r.held.isSome = true) ∧
      (r.held = none → ∀ i, Refuses w (clientMissing w r) c i) ∧
      (∀ {closes' : Bool} {β : Type} {act' : Action Connection β} {result' : Except Fault β}
          {c' : Connection} {j'' : Journal},
        Use w closes' act' → act' w c j' = (result', c', j'') →
          c'.stage = .resolved ∧ ∃ r', r'.released = r.released ∧ Serves w c' r' host ∧
            (r.held = none → r' = r)) ∧
      ∀ {result' : Except Fault Unit} {c' : Connection} {i i' : Journal},
        close w c i = (result', c', i') →
          (result' = .ok () → c'.stage = .resolved ∧ Serves w c' r.released host ∧
            ∀ i'', Refuses w (clientMissing w r) c' i'') ∧
          ∀ fault, result' = .error fault → c' = c) := by
  have hfresh := stands_unresolved settings candidates
  have hcourse := h.lawful hw _ _ j hfresh
  rw [hrun] at hcourse
  have hpassage : Passage w closes { settings, candidates } j c j' := hcourse.passage
  obtain ⟨stage, hc⟩ := hpassage.stands hw hfresh
  refine ⟨fun hstage => ?_, fun hstage => ?_⟩
  · refine withholds_of_unchosen ?_ w
    cases stage with
    | unresolved => exact hc.2.2.2.1
    | resolving => exact hc.elim
    | resolved => exact absurd hc.stage_eq hstage
    | failed => exact hc.2.2.2.1
  · obtain rfl : stage = .resolved := hc.stage_eq.symm.trans hstage
    obtain ⟨r, host, hchosen, hhost⟩ := hpassage.host_of_resolved hw hfresh hc
    obtain ⟨-, hinit, -⟩ := id hc
    have hserves : Serves w c r host := serves_of_chosen hinit hchosen hhost w
    refine ⟨r, host, hserves, hserves.client_iff, ?_, hserves.refuses, ?_, ?_⟩
    · rintro rfl
      obtain ⟨r', k, hchosen', hheld⟩ := hpassage.client_of_resolved hw hfresh hc
      obtain rfl := Option.some.inj (hchosen.symm.trans hchosen')
      rw [hheld]
      rfl
    · intro closes' β act' result' c' j'' h' hrun'
      have hcourse' := h'.lawful hw _ _ j' hc
      rw [hrun'] at hcourse'
      have hkeeps : Keeps w closes' c j' c' j'' := hcourse'.passage.keeps_of_settled hc nofun
      obtain ⟨r', -, hreleased, hserves', hsame, -⟩ := hkeeps.serves hc hchosen hhost
      exact ⟨(hkeeps.stands hc).stage_eq, r', hreleased, hserves', hsame⟩
    · intro result' c' i i' hclose
      rcases close_cases hw hclose with ⟨rfl, -⟩ | ⟨fault, rfl, rfl⟩
      · obtain ⟨hc', hserves'⟩ := serves_of_close hw hc hchosen hhost hclose
        have hrefuses := hserves'.refuses rfl
        rw [clientMissing_released] at hrefuses
        exact ⟨fun _ => ⟨hc'.stage_eq, hserves', hrefuses⟩, fun _ h => by cases h⟩
      · exact ⟨fun h => (by cases h), fun _ _ => rfl⟩

/-- A world in which everything is answered as expected. -/
def kindWorld : World := World.plain (fun _ => none)

theorem calm_kindWorld : kindWorld.Calm :=
  ⟨fun _ _ _ h => (by cases h), fun _ _ h => (by cases h), fun _ _ _ h => by cases h⟩

/-- In it, a connection over a supplied route comes to stand, and can be closed. -/
theorem run_kindWorld : ∃ c j c' j', client kindWorld fresh {} = (.ok "own", c, j) ∧
    close kindWorld c j = (.ok (), c', j') ∧ c.stage = .resolved ∧ c'.stage = .resolved ∧
    c'.initialized = true ∧ c'.chosen = some own.released := by
  have hchoose : Route.choose fresh.routes kindWorld fresh.attempting {} =
      (.ok (.ok own, [own]), fresh.attempting, _) := rfl
  have hinspect (j : Journal) :
      inspect fresh.settings own kindWorld (fresh.havingTried [own]) j =
        (.ok _, fresh.havingTried [own], _) :=
    (run_bind_ok rfl).trans <| (run_bind_ok rfl).trans <| (run_bind_ok rfl).trans <|
    (run_bind_ok rfl).trans <| (run_bind_ok rfl).trans <| (run_bind_ok rfl).trans <|
    (run_bind_ok rfl).trans <| (run_bind_ok rfl).trans <|
    (run_bind_ok (checkVersion_plain _ _ _)).trans rfl
  have hclient := client_of_linked rfl rfl rfl (resolve_of_inspected hchoose (hinspect _))
  exact ⟨_, _, _, _, hclient, rfl, rfl, rfl, rfl, rfl⟩

/-- Once it is closed, everything that needs the client is refused, for ever. -/
theorem availability_parting : ∃ c j c' j', client kindWorld fresh {} = (.ok "own", c, j) ∧
    close kindWorld c j = (.ok (), c', j') ∧ c'.stage = .resolved ∧
    ∃ r host, r.held.isSome = true ∧ Serves kindWorld c r host ∧
      Serves kindWorld c' r.released host ∧
      ∀ i, Refuses kindWorld (clientMissing kindWorld r) c' i := by
  obtain ⟨c, j, c', j', hclient, hclose, hstage, -⟩ := run_kindWorld
  obtain ⟨-, hstands⟩ := availability_of_use calm_kindWorld .plain
    (some [Route.supplied "own"]) (.client false) hclient
  obtain ⟨r, host, hserves, -, hheld, -, -, hcloses⟩ := hstands hstage
  obtain ⟨hstage', hserves', hrefuses⟩ := (hcloses hclose).1 rfl
  exact ⟨c, j, c', j', hclient, hclose, hstage', r, host, hheld rfl, hserves, hserves', hrefuses⟩

/-- Makes a connection, and closes it. -/
def parting : Action Connection Unit := do
  let _ ← client
  close

/-- The connection has been made and its host is answered, but its client is said to be missing as
long as the connection has not been made. -/
theorem unavailable_parting : ∃ c j, parting kindWorld fresh {} = (.ok (), c, j) ∧
    c.stage = .resolved ∧ hostAddress kindWorld c j = (.ok "localhost", c, j) ∧
    client kindWorld c j =
      (.error (.ofFailure (.notYetResolved "Client of strategy 'own'")), c, j) := by
  obtain ⟨_, _, c, j, hclient, hclose, -, hstage, hinit, hchosen⟩ := run_kindWorld
  have hserves : Serves kindWorld c own.released "localhost" :=
    serves_of_chosen hinit hchosen rfl kindWorld
  have hwords : "Client of strategy " ++ Value.quote "own" = "Client of strategy 'own'" := by
    decide +kernel
  refine ⟨c, j, (run_bind_ok hclient).trans hclose, hstage, hserves.hostAddress j, ?_⟩
  rw [hserves.client, ← hwords]
  rfl

end Mooring.Connection
