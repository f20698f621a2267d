import Mooring.Proofs.Connection.Use
import Mooring.Proofs.Route.Interrupt

/-! Attempts to connect that an interrupt cuts off. Such an attempt is left under way, to be made
again by whoever needs the connection next; and where the interrupt has struck while a client was
greeted or asked about its daemon, that client is left open, and the connection does not hold it. -/

namespace Mooring.Connection

open Mooring.Action

variable {w : World} {c : Connection} {j : Journal} {fault : Fault} {left : Option Client}

/-- Where a fault cuts an attempt off, and the client that it leaves open there: during the search,
while the daemon behind the chosen route is asked, or while that route is closed again. -/
inductive CutOff (w : World) (c : Connection) (j : Journal) (fault : Fault) :
    Option Client → Prop
  | choosing {left : Option Client} (h : Route.SearchCutOff w fault c.routes j left) :
    CutOff w c j fault left
  | inspecting {tried : List Route} {route : Route} {k : Client} {j₁ j₂ : Journal}
    (hchoose : Route.choose c.routes w c.attempting j =
      (.ok (.ok route, tried), c.attempting, j₁)) (hheld : route.held = some k)
    (h : inspect c.settings route w (c.havingTried tried) j₁ =
      (.error fault, c.havingTried tried, j₂)) : CutOff w c j fault (some k)
  | closing {tried : List Route} {route : Route} {k : Client} {j₁ j₂ j' : Journal} {failed : Fault}
    (hchoose : Route.choose c.routes w c.attempting j =
      (.ok (.ok route, tried), c.attempting, j₁)) (hheld : route.held = some k)
    (hinspect : inspect c.settings route w (c.havingTried tried) j₁ =
      (.error failed, c.havingTried tried, j₂)) (hfailed : failed.problem.isException = true)
    (h : Route.closeQuietly k w route j₂ = (.error fault, route, j')) : CutOff w c j fault none

/-! ### The attempt -/

theorem giveUp_of_interrupt (hf : fault.problem.isException = false) (c : Connection)
    (j : Journal) : (giveUp fault : Action Connection Unit) w c j = (.error fault, c, j) := by
  rw [giveUp, hf]
  rfl

theorem resolve_of_interrupted (hf : fault.problem.isException = false) {tried : List Route}
    {j' : Journal} (h : Route.choose c.routes w c.attempting j =
      (.ok (.error fault, tried), c.attempting, j')) :
    resolve w c j = (.error fault, c.havingTried tried, j') := by
  have hset : setStage .resolving w c j = (.ok (), c.attempting, j) := rfl
  rw [resolve, run_bind_ok hset, run_bind_ok run_get]
  exact (run_bind_ok h).trans (giveUp_of_interrupt hf _ _)

section Chosen

variable {tried : List Route} {route : Route} {k : Client} {j₁ j₂ j' : Journal}

theorem resolve_of_unasked (hf : fault.problem.isException = false)
    (hchoose : Route.choose c.routes w c.attempting j =
      (.ok (.ok route, tried), c.attempting, j₁))
    (hinspect : inspect c.settings route w (c.havingTried tried) j₁ =
      (.error fault, c.havingTried tried, j₂)) :
    resolve w c j = (.error fault, c.havingTried tried, j₂) := by
  rw [resolve_of_chosen hchoose, resolveOver, run_bind_ok (run_attempt _), hinspect]
  simp only [hf, Bool.false_eq_true, if_false]
  exact giveUp_of_interrupt hf _ _

theorem resolve_of_unclosed {failed : Fault} (hheld : route.held = some k)
    (hfailed : failed.problem.isException = true)
    (hchoose : Route.choose c.routes w c.attempting j =
      (.ok (.ok route, tried), c.attempting, j₁))
    (hinspect : inspect c.settings route w (c.havingTried tried) j₁ =
      (.error failed, c.havingTried tried, j₂))
    (hclose : Route.closeQuietly k w route j₂ = (.error fault, route, j')) :
    resolve w c j = (.error fault, c.havingTried tried, j') := by
  have hroute : Route.close w route j₂ = (.error fault, route, j') :=
    (close_of_held hheld j₂).trans (run_bind_error hclose)
  rw [resolve_of_failed hfailed hchoose hinspect, run_bind, run_runOn, hroute]
  rfl

theorem leaves_of_inspected {settings : Settings} {result : Except Fault Link} {s : Connection}
    (h : j.Leaves w left j₁) (hinspect : inspect settings route w s j₁ = (result, s, j₂)) :
    j.Leaves w left j₂ := by
  have hasks := (endsAsking_inspect w settings route s j₁).books
  rw [hinspect] at hasks
  obtain ⟨m, n, hbooks, -, -⟩ := hasks
  exact h.followed hbooks rfl rfl

/-- A search that finds a route leaves the client of the route. -/
theorem leaves_of_chosen (hheld : route.held = some k)
    (hchoose : Route.choose c.routes w c.attempting j =
      (.ok (.ok route, tried), c.attempting, j₁)) : j.Leaves w (some k) j₁ := by
  obtain ⟨chosen, _, left, _, hrun, hleaves, hends⟩ :=
    Route.chooseAfter_leaves w c.routes [] c.attempting j
  cases hchoose.symm.trans hrun
  rcases hends with ⟨_, _, hroute, hheld', rfl⟩ | ⟨_, hchosen, -⟩
  · cases hroute
    rw [hheld] at hheld'
    rwa [hheld']
  · cases hchosen

end Chosen

/-- An interrupt ends the attempt wherever it strikes, and leaves it under way. -/
theorem resolve_of_cutOff (hf : fault.problem.isException = false) (h : c.CutOff w j fault left) :
    ∃ tried j', resolve w c j = (.error fault, c.havingTried tried, j') ∧ j.Leaves w left j' := by
  cases h with
  | choosing h =>
    obtain ⟨tried, j', hchoose, hleaves⟩ := Route.chooseAfter_of_cutOff hf h [] c.attempting
    exact ⟨tried, j', resolve_of_interrupted hf hchoose, hleaves⟩
  | @inspecting tried _ _ _ j₂ hchoose hheld h =>
    exact ⟨tried, j₂, resolve_of_unasked hf hchoose h,
      leaves_of_inspected (leaves_of_chosen hheld hchoose) h⟩
  | @closing tried route k _ j₂ j' _ hchoose hheld hinspect hfailed h =>
    have hinspected := leaves_of_inspected (leaves_of_chosen hheld hchoose) hinspect
    obtain ⟨result, j₃, hclose, haside, -⟩ := Route.closeQuietly_cases w k route j₂
    rw [h] at hclose
    cases hclose
    exact ⟨tried, j', resolve_of_unclosed hheld hfailed hchoose hinspect h,
      hinspected.closing haside⟩

/-- An attempt ends in a link, in a failure that is kept, or in an interrupt that cuts it off. -/
theorem resolve_ends (w : World) (c : Connection) (j : Journal) :
    (∃ tried route link k j', route.held = some k ∧
        resolve w c j = (.ok (), c.linkedBy tried route link, j')) ∨
      (∃ fault c' j', fault.problem.isException = true ∧ resolve w c j = (.error fault, c', j')) ∨
      ∃ fault left, fault.problem.isException = false ∧ c.CutOff w j fault left := by
  obtain ⟨chosen, tried, left, j₁, hchoose, -, ⟨route, k, rfl, hheld, -⟩ | ⟨fault, rfl, hfault⟩⟩ :=
    Route.chooseAfter_leaves w c.routes [] c.attempting j
  · have hkept := (endsAsking_inspect w c.settings route (c.havingTried tried) j₁).kept
    rcases hinspect : inspect c.settings route w (c.havingTried tried) j₁ with ⟨result, s, j₂⟩
    rw [hinspect] at hkept
    obtain rfl : s = c.havingTried tried := hkept
    cases result with
    | ok link =>
      exact .inl ⟨tried, route, link, k, j₂, hheld, resolve_of_inspected hchoose hinspect⟩
    | error fault =>
      cases hf : fault.problem.isException with
      | false => exact .inr (.inr ⟨fault, some k, hf, .inspecting hchoose hheld hinspect⟩)
      | true =>
        obtain ⟨result, j₃, hclose, -, hfault⟩ := Route.closeQuietly_cases w k route j₂
        cases result with
        | error fault' =>
          obtain ⟨hf', -⟩ := hfault fault' rfl
          exact .inr (.inr ⟨fault', none, hf', .closing hchoose hheld hinspect hf hclose⟩)
        | ok u =>
          exact .inr (.inl ⟨fault, _, j₃, hf, resolve_of_released hf hheld hchoose hinspect hclose⟩)
  · cases hfault with
    | failure hf => exact .inr (.inl ⟨fault, _, j₁, hf, resolve_of_unchosen hf hchoose⟩)
    | interrupt hf hcut => exact .inr (.inr ⟨fault, left, hf, .choosing hcut⟩)

/-! ### Interrupted use -/

/-- Asking for a client ends in an interrupt exactly where one cuts the attempt off. The attempt is
then left under way, and whoever asks next makes another one. Every client that was opened has been
closed once but the one that is left, and none is left exactly if the interrupt has struck at
another time than while a client was greeted or asked about its daemon. -/
theorem client_of_interrupt (hinit : c.initialized = false) (hfailure : c.failure = none)
    (hf : fault.problem.isException = false) (w : World) (j : Journal) :
    ((∃ c' j', client w c j = (.error fault, c', j')) ↔ ∃ left, c.CutOff w j fault left) ∧
    ∀ left, c.CutOff w j fault left →
      ∃ tried books j', client w c j = (.error fault, c.havingTried tried, j') ∧
        (c.havingTried tried).stage = .resolving ∧ (c.havingTried tried).holding = c.holding ∧
        j'.books w = j.books w ++ books ∧ books.opened = books.closed ++ left.toList ∧
        (books.opened.Perm books.closed ↔ left = none) ∧
        ∀ j'', ensureResolved w (c.havingTried tried) j'' =
          resolve w (c.havingTried tried) j'' := by
  have hcut : ∀ left, c.CutOff w j fault left → ∃ tried j',
      client w c j = (.error fault, c.havingTried tried, j') ∧ j.Leaves w left j' := by
    intro left h
    obtain ⟨tried, j', hresolve, hleaves⟩ := resolve_of_cutOff hf h
    exact ⟨tried, j', client_of_unresolved hinit hfailure hresolve, hleaves⟩
  refine ⟨⟨?_, ?_⟩, ?_⟩
  · rintro ⟨c', j', hclient⟩
    rcases resolve_ends w c j with ⟨tried, route, link, k, j₁, hheld, hresolve⟩ |
      ⟨fault', c₁, j₁, hf', hresolve⟩ | ⟨fault', left, hf', h⟩
    · rw [client_of_linked hinit hfailure hheld hresolve] at hclient
      cases hclient
    · rw [client_of_unresolved hinit hfailure hresolve] at hclient
      cases hclient
      rw [hf] at hf'
      cases hf'
    · obtain ⟨tried, j₁, hresolve, -⟩ := resolve_of_cutOff hf' h
      rw [client_of_unresolved hinit hfailure hresolve] at hclient
      cases hclient
      exact ⟨left, h⟩
  · rintro ⟨left, h⟩
    obtain ⟨tried, j', hclient, -⟩ := hcut left h
    exact ⟨_, j', hclient⟩
  · intro left h
    obtain ⟨tried, j', hclient, books, hbooks, hopened⟩ := hcut left h
    refine ⟨tried, books, j', hclient, rfl, rfl, hbooks, hopened, ?_, fun j'' => ?_⟩
    · constructor
      · intro hperm
        have hlength := hperm.length_eq
        rw [hopened, List.length_append] at hlength
        cases left with
        | none => rfl
        | some k => simp at hlength
      · rintro rfl
        rw [hopened, Option.toList_none, List.append_nil]
    · exact ensureResolved_of_open (c := c.havingTried tried) hinit hfailure w j''

/-- A world in which one client does not get through, and the next is interrupted when it asks for
the daemon's version. -/
def haltedWorld : World := World.plain (fun c => match c with
  | .client "lame" .ping => some (.os .timeout none "timed out" none)
  | .client "halted" .version => some (.interrupt "stop")
  | _ => none)

/-- A connection with two candidates that both get a client. -/
def halted : Connection where
  settings := .plain
  candidates := some [Route.supplied "lame", Route.supplied "halted"]

/-- The first client is closed, the second is left, and the next use makes another attempt. -/
theorem client_halted : ∃ c j',
    client haltedWorld halted {} = (.error (.of (.interrupt "stop")), c, j') ∧
    c.stage = .resolving ∧ (∃ clients, j'.closed = clients ∧
      j'.opened haltedWorld = clients ++ ["halted"]) ∧
    ∀ j'', ensureResolved haltedWorld c j'' = resolve haltedWorld c j'' := by
  have hcut : halted.CutOff haltedWorld {} (.of (.interrupt "stop")) (some "halted") :=
    .inspecting rfl rfl rfl
  have hf : (Fault.of (.interrupt "stop")).problem.isException = false := rfl
  obtain ⟨-, hends⟩ := client_of_interrupt (c := halted) rfl rfl hf haltedWorld {}
  obtain ⟨tried, books, j', hclient, hstage, -, hbooks, hopened, -, hagain⟩ := hends _ hcut
  have hnew : j'.opened haltedWorld = books.opened := congrArg Books.opened hbooks
  have hclosed : j'.closed = books.closed := congrArg Books.closed hbooks
  exact ⟨_, j', hclient, hstage, ⟨books.closed, hclosed, hnew.trans hopened⟩, hagain⟩

/-- A world in which a ping is interrupted. -/
def strickenWorld : World := World.plain (fun c => match c with
  | .client _ .ping => some (.interrupt "stop")
  | _ => none)

/-- A connection with one candidate. -/
def stricken : Connection where
  settings := .plain
  candidates := some [Route.supplied "own"]

/-- The attempt is left under way, and the client that it has opened is never closed. -/
theorem client_stricken : ∃ c j',
    client strickenWorld stricken {} = (.error (.of (.interrupt "stop")), c, j') ∧
    c.stage = .resolving ∧ c.holding = [] ∧ j'.opened strickenWorld = ["own"] ∧
    j'.closed = [] :=
  ⟨_, _, rfl, rfl, rfl, rfl, rfl⟩

end Mooring.Connection
