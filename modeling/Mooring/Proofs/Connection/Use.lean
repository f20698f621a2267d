import Mooring.Proofs.Connection.Course

/-! Use of a connection: any program of its operations, one after another, nested in the work in
helper containers, and with handlers around them. Every operation takes a lawful course, and so does
every use. -/

namespace Mooring.Connection

open Mooring.Action

variable {α β : Type} {w : World} {closes : Bool} {c c' : Connection} {j j' : Journal}
  {stage : Stage}

/-! ### Making sure of the connection -/

theorem ensureResolved_of_open (hinit : c.initialized = false) (hfailure : c.failure = none)
    (w : World) (j : Journal) : ensureResolved w c j = resolve w c j := by
  rw [ensureResolved, run_bind_ok run_get, hinit, hfailure]
  rfl

theorem ensureResolved_of_unresolved (hc : c.Stands .unresolved) :
    ensureResolved w c j = resolve w c j := by
  obtain ⟨-, hinit, hfailure, -⟩ := hc
  exact ensureResolved_of_open hinit hfailure w j

theorem ensureResolved_of_initialized (hinit : c.initialized = true) :
    ensureResolved w c j = (.ok (), c, j) := by
  rw [ensureResolved, run_bind_ok run_get, hinit]
  rfl

theorem ensureResolved_of_failed (hc : c.Stands .failed) {fault : Fault}
    (hfailure : c.failure = some fault) : ensureResolved w c j = (.error fault, c, j) := by
  obtain ⟨-, hinit, -⟩ := hc
  rw [ensureResolved, run_bind_ok run_get, hinit, hfailure]
  rfl

theorem lawful_ensureResolved (hw : w.Calm) : Lawful w closes ensureResolved := by
  intro c stage j hc
  cases stage with
  | unresolved =>
    rw [ensureResolved_of_unresolved hc]
    rcases hrun : resolve w c j with ⟨ended, c', j'⟩
    refine ⟨.settles hc (.of_aside c (.refl _ j)) hrun (.of_aside c' (.refl _ j')), ?_⟩
    rintro fault rfl
    rcases stands_of_resolve hw hc hrun with ⟨-, h⟩ | ⟨fault', hc', hfailure, h⟩
    · cases h
    · cases h
      obtain ⟨-, -, ⟨fault'', hfailure', hf⟩, -⟩ := hc'
      rw [hfailure] at hfailure'
      cases hfailure'
      exact World.allows_of_isException hf
  | resolving => exact hc.elim
  | resolved =>
    obtain ⟨-, hinit, -⟩ := id hc
    rw [ensureResolved_of_initialized hinit]
    exact ⟨.keeps (.of_aside c (.refl _ j)), fun _ h => by cases h⟩
  | failed =>
    obtain ⟨-, -, ⟨fault, hfailure, hf⟩, -⟩ := id hc
    rw [ensureResolved_of_failed hc hfailure]
    exact ⟨.keeps (.of_aside c (.refl _ j)),
      fun _ h => by cases h; exact World.allows_of_isException hf⟩

theorem standsAside_partOf {σ ρ β : Type} {view : σ → ρ} (part : Option β) (member : String) :
    StandsAside w view (partOf part member : Action σ β) := by
  unfold partOf
  split
  · exact .pure _
  · exact .fail (World.allows_of_isException rfl)

theorem client_of_held {c : Connection} {r : Route} {k : Client} (hinit : c.initialized = true)
    (hchosen : c.chosen = some r) (hheld : r.held = some k) (w : World) (j : Journal) :
    client w c j = (.ok k, c, j) := by
  have hpart : (partOf (some r) "client" : Action Connection Route) w c j = (.ok r, c, j) := rfl
  rw [client, run_bind_ok (ensureResolved_of_initialized hinit), run_bind_ok run_get, hchosen,
    run_bind_ok hpart, Route.client, hheld]
  rfl

theorem client_of_linked {tried : List Route} {route : Route} {link : Link} {k : Client}
    (hinit : c.initialized = false) (hfailure : c.failure = none)
    (hheld : route.held = some k)
    (h : resolve w c j = (.ok (), c.linkedBy tried route link, j')) :
    client w c j = (.ok k, c.linkedBy tried route link, j') := by
  have hensure : ensureResolved w c j = (.ok (), c.linkedBy tried route link, j') := by
    rw [ensureResolved_of_open hinit hfailure, h]
  have hstands := client_of_held (c := c.linkedBy tried route link) rfl rfl hheld w j'
  rw [client, run_bind_ok (ensureResolved_of_initialized rfl)] at hstands
  rw [client, run_bind_ok hensure, hstands]

theorem client_of_unresolved {fault : Fault} (hinit : c.initialized = false)
    (hfailure : c.failure = none) (h : resolve w c j = (.error fault, c', j')) :
    client w c j = (.error fault, c', j') := by
  refine run_bind_error ?_
  rw [ensureResolved_of_open hinit hfailure, h]

theorem lawful_client (hw : w.Calm) : Lawful w closes client := by
  refine .bind hw (lawful_ensureResolved hw) (fun _ => .aside (.bind .get (fun c => ?_)))
  exact .bind (standsAside_partOf _ _) (fun route => route.standsAside_client)

theorem lawful_daemon (hw : w.Calm) : Lawful w closes daemon := by
  refine .bind hw (lawful_client hw) (fun _ => .aside (.bind .get (fun c => ?_)))
  exact standsAside_partOf _ _

theorem standsAside_routeFor (what : String) : StandsAside w id (routeFor what) := by
  refine .bind .get (fun c => ?_)
  split
  · exact .pure _
  · exact .failWith _

/-! ### The agent -/

theorem Keeps.putAgent (hagent : c.agent.isSome = true) (agent : Agent) (h : j.Aside j') :
    Keeps w closes c j (putAgent agent c) j' := by
  have hkeeps : Keeps w closes c j c j' := .of_aside c h
  obtain ⟨-, -, -, hapart, hclosed⟩ := hkeeps
  exact ⟨rfl, rfl, hagent.symm, hapart, hclosed⟩

theorem Course.putAgent {ρ : Type} {view : Agent → ρ} {act : Action Agent α}
    (h : StandsAside w view act) {agent : Agent} (hagent : c.agent = some agent) (j : Journal) :
    Course w closes c j (within Connection.putAgent agent act w c j) := by
  refine ⟨.keeps (.putAgent ?_ _ (h agent j).aside), (h agent j).allowed⟩
  rw [hagent]
  rfl

theorem lawful_startedAgent (hw : w.Calm) : Lawful w closes startedAgent := by
  refine .bind hw (lawful_client hw) (fun _ => .afterGet (fun c stage j hc => ?_))
  cases hagent : c.agent with
  | none =>
    exact ⟨.keeps (.of_aside c (.refl _ j)), fun _ h => by
      cases h
      exact World.allows_of_isException rfl⟩
  | some agent =>
    have starts : StandsAside w unseen (do Agent.ensureStarted; get) :=
      .bind standsAside_ensureStarted (fun _ => .get)
    have hpart : (partOf (some agent) "initialize" : Action Connection Agent) w c j =
      (.ok agent, c, j) := rfl
    rw [run_bind_ok hpart]
    exact .putAgent starts hagent j

/-! ### Closing -/

/-- Closing the route keeps all but its client, which is closed by one call. -/
theorem Keeps.putRoute (hw : w.Calm) {route : Route} (hchosen : c.chosen = some route)
    (j : Journal) : ∃ route' j', Route.close w route j = (.ok (), route', j') ∧
      Keeps w true c j (putRoute route' c) j' := by
  cases hheld : route.held with
  | none =>
    refine ⟨route, j, ?_, ?_⟩
    · rw [Route.close, run_bind_ok run_get, hheld]
      rfl
    · have hput : Connection.putRoute route c = c := by rw [Connection.putRoute, ← hchosen]
      rw [hput]
      exact .of_aside c (.refl _ j)
  | some k =>
    obtain ⟨j', hclose, hj⟩ := close_run hw hheld j
    refine ⟨_, j', hclose, rfl, ?_, rfl, ?_, [k], ?_, ?_, fun h => by cases h⟩
    · simp [Connection.putRoute, hchosen, Route.released]
    · exact .trans (.call rfl w j) hj.apart
    · rw [Journal.books_of_aside hj w, Journal.books_afterCall, Event.entry_closed]
    · simp [holding, Connection.putRoute, hchosen, hheld]

theorem lawful_closeAgent : Lawful w closes closeAgent := by
  refine .afterGet (fun c stage j hc => ?_)
  cases hagent : c.agent with
  | none => exact ⟨.keeps (.of_aside c (.refl _ j)), fun _ h => by cases h⟩
  | some agent => exact .putAgent standsAside_agentClose hagent j

theorem lawful_closeRoute (hw : w.Calm) : Lawful w true closeRoute := by
  refine .afterGet (fun c stage j hc => ?_)
  cases hchosen : c.chosen with
  | none => exact ⟨.keeps (.of_aside c (.refl _ j)), fun _ h => by cases h⟩
  | some route =>
    obtain ⟨route', j', hclose, hkeeps⟩ := Keeps.putRoute hw hchosen j
    simp only [run_within, hclose]
    exact ⟨.keeps hkeeps, fun _ h => by cases h⟩

theorem lawful_close (hw : w.Calm) : Lawful w true close :=
  .bind hw lawful_closeAgent (fun _ => lawful_closeRoute hw)

/-! ### Work in helper containers -/

theorem lawful_withHelper (hw : w.Calm) (client : Client) (spec : HelperSpec)
    {work : ResourceId → Action Connection α} (hwork : ∀ id, Lawful w closes (work id)) :
    Lawful w closes (withHelper client spec work) := by
  refine .bind hw (.aside (.call rfl)) (fun id => .bind hw (.aside (.log rfl)) (fun _ => ?_))
  refine .attempt hw (.bind hw (.aside (.call rfl)) (fun _ => hwork id)) ?_ ?_
  · intro a
    exact .aside (.bind (standsAside_removeContainer client id) (fun _ => .pure a))
  · intro fault hf
    exact .aside (standsAside_removeAfter client id hf)

theorem lawful_runInside (hw : w.Calm) {adjust : Action HelperSpec Unit}
    (hadjust : StandsAside w unseen adjust) {work : Client → ResourceId → Action Connection α}
    (hwork : ∀ k id, Lawful w closes (work k id)) : Lawful w closes (runInside adjust work) := by
  refine .bind hw (lawful_client hw) (fun k => .bind hw (.aside .get) (fun c => ?_))
  refine .bind hw (.aside (standsAside_ensureImage _ _)) (fun _ => .afterRead ?_)
  intro c' stage j hc'
  rw [run_bind_ok (run_runOn _ _)]
  have hadjusted := hadjust (.ofImage w.session c.settings.tinyImage) j
  refine .after hw hc' (.keeps (.of_aside c' hadjusted.aside)) ?_
  cases e : (adjust w (.ofImage w.session c.settings.tinyImage) j).1 with
  | ok u => exact lawful_withHelper hw k _ (hwork k) c' stage _ hc'
  | error fault =>
    exact ⟨.keeps (.of_aside c' (.refl _ _)), fun _ h => by
      cases h
      exact hadjusted.allowed fault e⟩

/-! ### Programs -/

/-- A use of a connection: its operations, steps that have no part in it, sequences and handlers.
Whether it may close the connection is told by a flag. -/
inductive Use (w : World) : (closes : Bool) → {α : Type} → Action Connection α → Prop
  | aside (closes : Bool) {α : Type} {act : Action Connection α} (h : StandsAside w id act) :
    Use w closes act
  | bind {closes : Bool} {α β : Type} {act : Action Connection α}
    {next : α → Action Connection β} (h : Use w closes act) (hn : ∀ a, Use w closes (next a)) :
    Use w closes (act >>= next)
  | attempt {closes : Bool} {α : Type} {act : Action Connection α} (h : Use w closes act) :
    Use w closes (Action.attempt act)
  | client (closes : Bool) : Use w closes client
  | daemon (closes : Bool) : Use w closes daemon
  | apiVersion (closes : Bool) : Use w closes apiVersion
  | executionDriver (closes : Bool) : Use w closes executionDriver
  | startedAgent (closes : Bool) : Use w closes startedAgent
  | runInside {closes : Bool} {α : Type} {adjust : Action HelperSpec Unit}
    {work : Client → ResourceId → Action Connection α} (hadjust : StandsAside w unseen adjust)
    (hwork : ∀ k id, Use w closes (work k id)) : Use w closes (runInside adjust work)
  | hostAddress (closes : Bool) : Use w closes hostAddress
  | route (closes : Bool) : Use w closes route
  | isUsingKind (closes : Bool) (kind : RouteKind) : Use w closes (isUsingKind kind)
  | isUsingFamily (closes : Bool) (family : RouteFamily) : Use w closes (isUsingFamily family)
  | close : Use w true close

/-- Every use of a connection takes a lawful course. -/
theorem Use.lawful (hw : w.Calm) {act : Action Connection α} (h : Use w closes act) :
    Lawful w closes act := by
  induction h with
  | aside _ h => exact .aside h
  | bind _ _ ih ihn => exact .bind hw ih ihn
  | attempt _ ih =>
    intro c stage j hc
    exact ⟨(ih c stage j hc).passage, fun _ h => by cases h⟩
  | client => exact lawful_client hw
  | daemon => exact lawful_daemon hw
  | apiVersion => exact .bind hw (lawful_daemon hw) (fun _ => .aside (.pure _))
  | executionDriver => exact .bind hw (lawful_daemon hw) (fun _ => .aside (.pure _))
  | startedAgent => exact lawful_startedAgent hw
  | runInside hadjust _ ih => exact lawful_runInside hw hadjust ih
  | hostAddress =>
    exact .aside (.bind (standsAside_routeFor _) (fun route => route.standsAside_hostAddress))
  | route => exact .aside (standsAside_routeFor _)
  | isUsingKind _ kind => exact .aside (.bind (standsAside_routeFor _) (fun _ => .pure _))
  | isUsingFamily _ family => exact .aside (.bind (standsAside_routeFor _) (fun _ => .pure _))
  | close => exact lawful_close hw

end Mooring.Connection
