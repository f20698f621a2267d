import Mooring.Connection
import Mooring.Proofs.Route.Search

/-! One attempt to connect. The daemon behind the chosen route is asked about itself at most once;
an attempt that comes to a link publishes all of it, and one that fails closes what it has opened
and keeps its fault. -/

namespace Mooring

open Mooring.Action

variable {σ ρ : Type} {w : World} {view : σ → ρ} {s s' : σ} {j j' : Journal}

/-! ### Asking the daemon -/

theorem Route.standsAside_client (r : Route) :
    StandsAside w view (r.client : Action σ Client) := by
  unfold Route.client
  split
  · exact .pure _
  · exact .bind (.bind .read (fun _ => .pure _)) (fun _ => .failWith _)

theorem Route.standsAside_hostAddress (r : Route) :
    StandsAside w view (r.hostAddress : Action σ String) := by
  unfold Route.hostAddress
  split
  · exact .pure _
  · exact .bind (.bind .read (fun _ => .pure _)) (fun _ => .failWith _)

/-- A host is only answered if there is one. -/
theorem Route.hostAddress_eq_ok {r : Route} {host : String}
    (h : r.hostAddress w s j = (.ok host, s', j')) : r.host = some host ∧ s' = s ∧ j' = j := by
  cases hhost : r.host with
  | none =>
    rw [Route.hostAddress, hhost] at h
    cases h
  | some host' =>
    rw [Route.hostAddress, hhost] at h
    cases h
    exact ⟨rfl, rfl, rfl⟩

namespace Connection

theorem standsAside_checkVersion (minimum : String) (version : Value) :
    StandsAside w view (checkVersion minimum version : Action σ Unit) := by
  unfold checkVersion
  split
  · refine .bind (.ofExcept (.mapError (fun _ => rfl) _)) (fun supported => ?_)
    exact .ite (.log rfl) (.bind (.log rfl) (fun _ => .failWith _))
  · exact .fail (World.allows_of_isException rfl)

theorem standsAside_appraise (settings : Settings) (client : Client) (host : String)
    (info version : Value) :
    StandsAside w view (appraise settings client host info version : Action σ Link) := by
  refine .bind (.ofExcept (.daemon info version)) (fun daemon => ?_)
  refine .bind (.log rfl) (fun _ => .bind (.log rfl) (fun _ => ?_))
  refine .bind (standsAside_checkVersion _ _) (fun _ => ?_)
  have selects : StandsAside w view (do
      let agent ← ofExcept (Agent.select daemon client host settings)
      return { daemon, agent } : Action σ Link) :=
    .bind (.ofExcept (.select _ _ _ _)) (fun _ => .pure _)
  exact .ite selects (.bind (standsAside_check _ _ _) (fun _ => selects))

/-- What an inspection adds to the books: each question is asked at most once. -/
structure EndsAsking (w : World) (s : σ) (j : Journal) (infos versions : Nat)
    (ending : Except Fault Link × σ × Journal) : Prop where
  books : ∃ m n, ending.2.2.books w = j.books w ++ { infos := m, versions := n } ∧ m ≤ infos ∧
    n ≤ versions
  kept : ending.2.1 = s
  allowed : ∀ fault, ending.1 = .error fault → w.Allows fault

theorem EndsAsking.aside {act : Action σ Link} (h : StandsAside w id act) (s : σ) (j : Journal) :
    EndsAsking w s j 0 0 (act w s j) := by
  refine ⟨⟨0, 0, ?_, by omega, by omega⟩, (h s j).kept, (h s j).allowed⟩
  rw [Journal.books_of_aside (h s j).aside w]
  exact (Books.append_nil _).symm

theorem EndsAsking.bind {α : Type} {act : Action σ α} (h : StandsAside w id act)
    {next : α → Action σ Link} {m n : Nat} (hn : ∀ a j, EndsAsking w s j m n (next a w s j)) :
    EndsAsking w s j m n ((act >>= next) w s j) := by
  rcases e : act w s j with ⟨fault | a, s', j'⟩
  · rw [run_bind_error e]
    refine ⟨⟨0, 0, ?_, by omega, by omega⟩, h.kept e, fun _ hf => by cases hf; exact h.allowed e⟩
    rw [h.books e]
    exact (Books.append_nil _).symm
  · rw [run_bind_ok e]
    obtain rfl : s' = s := h.kept e
    have hbooks := (hn a j').books
    rw [h.books e] at hbooks
    exact ⟨hbooks, (hn a j').kept, (hn a j').allowed⟩

theorem EndsAsking.call {c : Call} {m n p q : Nat}
    (hc : ∀ j : Journal,
      (j.afterCall w c).books w = j.books w ++ { infos := p, versions := q })
    {next : c.Answer → Action σ Link} (hn : ∀ a j, EndsAsking w s j m n (next a w s j)) :
    EndsAsking w s j (p + m) (q + n) ((Action.call c >>= next) w s j) := by
  cases e : (w.answer j.events c).result with
  | error problem =>
    rw [run_bind_error (run_call_error e)]
    refine ⟨⟨p, q, hc j, by omega, by omega⟩, rfl, fun fault hf => ?_⟩
    cases hf
    exact fun hw => hw.answers j.events c problem e
  | ok answer =>
    rw [run_bind_ok (run_call_ok e)]
    obtain ⟨⟨a, b, hbooks, ha, hb⟩, hkept, hallowed⟩ := hn answer (j.afterCall w c)
    refine ⟨⟨p + a, q + b, ?_, by omega, by omega⟩, hkept, hallowed⟩
    rw [hbooks, hc j, Books.append_assoc]
    simp [Books.append_def]

/-- An inspection asks each question at most once, and opens and closes no client. -/
theorem endsAsking_inspect (w : World) (settings : Settings) (route : Route) (s : σ)
    (j : Journal) : EndsAsking w s j 1 1 (inspect settings route w s j) := by
  refine .bind route.standsAside_client (fun client j => ?_)
  refine .bind route.standsAside_hostAddress (fun host j => .bind (.log rfl) (fun _ j => ?_))
  have hinfo (j : Journal) :
      (j.afterCall w (.client client .info)).books w = j.books w ++ { infos := 1 } := by
    rw [Journal.books_afterCall, Event.entry_info]
  have hversion (j : Journal) :
      (j.afterCall w (.client client .version)).books w = j.books w ++ { versions := 1 } := by
    rw [Journal.books_afterCall, Event.entry_version]
  refine .call (m := 0) (n := 1) (q := 0) hinfo (fun info j => ?_)
  refine .call (m := 0) (n := 0) (p := 0) hversion (fun version j => ?_)
  exact .aside (standsAside_appraise settings client host info version) s j

/-! ### The attempt -/

theorem close_of_held {r : Route} {k : Client} (hheld : r.held = some k) (j : Journal) :
    Route.close w r j = (do
      Route.closeQuietly k
      modify (fun r => { r with held := none }) : Action Route Unit) w r j := by
  rw [Route.close, run_bind_ok run_get, hheld]

/-- Closing a route closes its client by one call, and nothing comes of it. -/
theorem close_run (hw : w.Calm) {r : Route} {k : Client} (hheld : r.held = some k) (j : Journal) :
    ∃ j', Route.close w r j = (.ok (), { r with held := none }, j') ∧
      (j.afterCall w (.client k .close)).Aside j' := by
  obtain ⟨j', hclose, hj⟩ := Route.closeQuietly_run hw k r j
  exact ⟨j', (close_of_held hheld j).trans (run_bind_ok hclose), hj⟩

/-- A connection during an attempt. -/
def attempting (c : Connection) : Connection := { c with stage := .resolving }

/-- The routes that an attempt tries. -/
def routes (c : Connection) : List Route := c.candidates.getD (Route.discover c.settings)

/-- A connection once its candidates have been tried. -/
def havingTried (c : Connection) (tried : List Route) : Connection :=
  { c.attempting with candidates := c.candidates.map (fun _ => tried) }

/-- A connection whose attempt has ended in a fault, with its candidates as they were left. -/
def failedWith (c : Connection) (tried : List Route) (fault : Fault) : Connection :=
  { c with
    candidates := c.candidates.map (fun _ => tried)
    stage := .failed
    failure := some fault }

/-- A connection that stands over a route. -/
def linkedBy (c : Connection) (tried : List Route) (route : Route) (link : Link) : Connection :=
  { c with
    candidates := c.candidates.map (fun _ => tried)
    stage := .resolved
    initialized := true
    chosen := some route
    metadata := some link.daemon
    agent := some link.agent }

variable {c : Connection} {tried : List Route} {route : Route}

theorem giveUp_run {fault : Fault} (hf : fault.problem.isException = true) (c : Connection) :
    (giveUp fault : Action Connection Unit) w c j =
      (.error fault, { c with failure := some fault, stage := .failed }, j) := by
  rw [giveUp, hf]
  rfl

theorem resolve_of_unchosen {fault : Fault} (hf : fault.problem.isException = true)
    (h : Route.choose c.routes w c.attempting j = (.ok (.error fault, tried), c.attempting, j')) :
    resolve w c j = (.error fault, c.failedWith tried fault, j') := by
  have hset : setStage .resolving w c j = (.ok (), c.attempting, j) := rfl
  rw [resolve, run_bind_ok hset, run_bind_ok run_get]
  exact (run_bind_ok h).trans (giveUp_run hf _)

/-- The run of an attempt up to the inspection of the chosen route. -/
theorem resolve_of_chosen
    (h : Route.choose c.routes w c.attempting j = (.ok (.ok route, tried), c.attempting, j')) :
    resolve w c j = resolveOver c.settings route w (c.havingTried tried) j' := by
  have hset : setStage .resolving w c j = (.ok (), c.attempting, j) := rfl
  rw [resolve, run_bind_ok hset, run_bind_ok run_get]
  exact run_bind_ok h

theorem resolve_of_inspected {link : Link} {j₁ : Journal}
    (h : Route.choose c.routes w c.attempting j = (.ok (.ok route, tried), c.attempting, j₁))
    (hinspect : inspect c.settings route w (c.havingTried tried) j₁ =
      (.ok link, c.havingTried tried, j')) :
    resolve w c j = (.ok (), c.linkedBy tried route link, j') := by
  rw [resolve_of_chosen h, resolveOver, run_bind_ok (run_attempt _), hinspect]
  rfl

/-- The run of an attempt from an inspection in vain on. -/
theorem resolve_of_failed {fault : Fault} {j₁ j₂ : Journal}
    (hf : fault.problem.isException = true)
    (h : Route.choose c.routes w c.attempting j = (.ok (.ok route, tried), c.attempting, j₁))
    (hinspect : inspect c.settings route w (c.havingTried tried) j₁ =
      (.error fault, c.havingTried tried, j₂)) :
    resolve w c j = (do
      let (closed, _) ← runOn route Route.close
      ofResult closed
      giveUp fault : Action Connection Unit) w (c.havingTried tried) j₂ := by
  rw [resolve_of_chosen h, resolveOver, run_bind_ok (run_attempt _), hinspect]
  simp only [hf, if_true]

theorem resolve_of_released {fault : Fault} {k : Client} {j₁ j₂ : Journal}
    (hf : fault.problem.isException = true) (hheld : route.held = some k)
    (h : Route.choose c.routes w c.attempting j = (.ok (.ok route, tried), c.attempting, j₁))
    (hinspect : inspect c.settings route w (c.havingTried tried) j₁ =
      (.error fault, c.havingTried tried, j₂))
    (hclose : Route.closeQuietly k w route j₂ = (.ok (), route, j')) :
    resolve w c j = (.error fault, c.failedWith tried fault, j') := by
  have hroute : Route.close w route j₂ = (.ok (), { route with held := none }, j') :=
    (close_of_held hheld j₂).trans (run_bind_ok hclose)
  rw [resolve_of_failed hf h hinspect, run_bind, run_runOn, hroute]
  exact giveUp_run hf _

/-- A route that was chosen in vain is closed by one call, and the attempt ends as its inspection
did, whatever comes of the call. -/
theorem resolve_of_uninspected (hw : w.Calm) {fault : Fault} {k : Client} {j₁ j₂ : Journal}
    (hf : fault.problem.isException = true) (hheld : route.held = some k)
    (h : Route.choose c.routes w c.attempting j = (.ok (.ok route, tried), c.attempting, j₁))
    (hinspect : inspect c.settings route w (c.havingTried tried) j₁ =
      (.error fault, c.havingTried tried, j₂)) :
    ∃ j', resolve w c j = (.error fault, c.failedWith tried fault, j') ∧
      (j₂.afterCall w (.client k .close)).Aside j' := by
  obtain ⟨j', hclose, hj⟩ := Route.closeQuietly_run hw k route j₂
  exact ⟨j', resolve_of_released hf hheld h hinspect hclose, hj⟩

/-- What an attempt adds to the books: its candidates are asked at most once and in order, a daemon
at most once about itself, and every client that was opened is closed again but the one that is
held. -/
structure Attempted (c : Connection) (held : List Client) (books : Books) : Prop where
  asked : books.marks.filter Mark.isAsked <+: c.routes.flatMap Route.asking
  infos : books.infos ≤ 1
  versions : books.versions ≤ 1
  balance : books.opened.Perm (books.closed ++ held)

theorem Attempted.closing {books : Books} {k : Client} (h : c.Attempted [k] books) :
    c.Attempted [] (books ++ { closed := [k] }) := by
  refine ⟨?_, ?_, ?_, ?_⟩
  · simpa [Books.append_def] using h.asked
  · simpa [Books.append_def] using h.infos
  · simpa [Books.append_def] using h.versions
  · simpa [Books.append_def] using h.balance

/-- An attempt fails and keeps its fault, or makes the connection over a route that holds a
client. -/
theorem resolve_cases (hw : w.Calm) (c : Connection) (j : Journal) :
    ∃ tried books j', j'.books w = j.books w ++ books ∧
      ((∃ fault, fault.problem.isException = true ∧
          resolve w c j = (.error fault, c.failedWith tried fault, j') ∧
          c.Attempted [] books) ∨
        ∃ route link k, route.held = some k ∧
          resolve w c j = (.ok (), c.linkedBy tried route link, j') ∧
          c.Attempted [k] books) := by
  obtain ⟨chosen, tried, books, j₁, hchoose, hbooks, hsearched⟩ :=
    Route.chooseAfter_cases hw c.routes [] c.attempting j
  refine ⟨tried, ?_⟩
  cases chosen with
  | error fault =>
    have hf : fault.problem.isException = true := hsearched.exception fault rfl
    refine ⟨books, j₁, hbooks, .inl ⟨fault, hf, resolve_of_unchosen hf hchoose, ?_⟩⟩
    refine ⟨hsearched.asked, ?_, ?_, ?_⟩
    · rw [hsearched.infos]
      omega
    · rw [hsearched.versions]
      omega
    · rw [hsearched.opened]
      exact .refl _
  | ok route =>
    obtain ⟨k, hheld⟩ := hsearched.held route rfl
    have hopened : books.opened = books.closed ++ [k] := by
      rw [hsearched.opened]
      simp [Except.toOption, hheld]
    have hasks := endsAsking_inspect w c.settings route (c.havingTried tried) j₁
    rcases hinspect : inspect c.settings route w (c.havingTried tried) j₁ with ⟨result, s, j₂⟩
    rw [hinspect] at hasks
    obtain ⟨⟨m, n, hasked, hm, hn⟩, hkept, hallowed⟩ := hasks
    obtain rfl : s = c.havingTried tried := hkept
    have hadded : j₂.books w = j.books w ++ (books ++ { infos := m, versions := n }) := by
      rw [← Books.append_assoc, ← hbooks]
      exact hasked
    have hattempted : c.Attempted [k] (books ++ { infos := m, versions := n }) := by
      refine ⟨?_, ?_, ?_, ?_⟩
      · simpa [Books.append_def] using hsearched.asked
      · simpa [Books.append_def, hsearched.infos] using hm
      · simpa [Books.append_def, hsearched.versions] using hn
      · simpa [Books.append_def] using List.Perm.of_eq hopened
    cases result with
    | ok link =>
      exact ⟨_, j₂, hadded, .inr ⟨route, link, k, hheld,
        resolve_of_inspected hchoose hinspect, hattempted⟩⟩
    | error fault =>
      have hf : fault.problem.isException = true := hallowed fault rfl hw
      obtain ⟨j₃, hresolve, hclosed⟩ := resolve_of_uninspected hw hf hheld hchoose hinspect
      refine ⟨_, j₃, ?_, .inl ⟨fault, hf, hresolve, hattempted.closing⟩⟩
      rw [Journal.books_of_aside hclosed w, Journal.books_afterCall, Event.entry_closed, hadded,
        Books.append_assoc]

end Connection

end Mooring
