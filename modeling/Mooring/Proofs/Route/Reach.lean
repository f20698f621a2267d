import Mooring.Proofs.Aside
import Mooring.Route.Choice

/-! Reaching a daemon over a route, and what it leaves in the books: opening a client is the one
step that opens any, and a probe that fails closes what it has opened. -/

namespace Mooring.Route

open Mooring.Action

variable {σ : Type} {w : World} {r r' : Route} {j j' : Journal}

/-- A route but for the machine it has found. -/
def bare (r : Route) : Route := { r with machine := none }

theorem bare_eq_iff :
    r.bare = r'.bare ↔ r.way = r'.way ∧ r.settings = r'.settings ∧ r.held = r'.held ∧
      r.host = r'.host := by
  simp [bare]

/-! ### Virtual machines -/

theorem standsAside_runMachine (settings : Settings) (arguments : List String) :
    StandsAside w bare (runMachine settings arguments : Action Route String) := by
  refine .bind (.call rfl) (fun result => ?_)
  exact .ite (.fail (World.allows_of_isException rfl)) (.pure _)

theorem standsAside_machineName : StandsAside w bare machineName := by
  refine .bind .get (fun r => ?_)
  split
  · exact .pure _
  · split
    · exact .bind (.pure _) (fun _ => .bind (.modify (fun _ => rfl)) (fun _ => .pure _))
    · refine .bind (standsAside_runMachine _ _) (fun listing => ?_)
      split
      · exact .bind (.pure _) (fun _ => .bind (.modify (fun _ => rfl)) (fun _ => .pure _))
      · refine .bind (.fail (World.allows_of_isException rfl)) (fun _ => ?_)
        exact .bind (.modify (fun _ => rfl)) (fun _ => .pure _)

theorem standsAside_machineTls : StandsAside w bare machineTls := by
  refine .bind standsAside_machineName (fun name => .bind .get (fun r => ?_))
  refine .bind (standsAside_runMachine _ _) (fun store => ?_)
  exact .bind (.call rfl) (fun _ => .pure _)

/-! ### Asking a route

A supplied route is asked by a call, and the program for virtual machines is looked for by one; what
else makes a known way apply can be seen without a call. -/

def asking (r : Route) : List Mark :=
  match r.way with
  | .known .dockerMachine => [.sought machineProgram]
  | .known _ => []
  | .supplied name _ _ => [.asked name]

theorem isApplicable_cases (w : World) (r : Route) (j : Journal) :
    ∃ result j', isApplicable w r j = (result, r, j') ∧
      j'.books w = j.books w ++ { marks := r.asking } ∧
      ∀ fault, result = .error fault → w.Allows fault := by
  obtain ⟨way, settings, held, host, machine⟩ := r
  have hknown (applies : Bool) :
      j.books w = j.books w ++ { marks := [] } ∧
        ∀ fault, (.ok applies : Except Fault Bool) = .error fault → w.Allows fault :=
    ⟨(Books.append_nil _).symm, fun _ h => by cases h⟩
  cases way with
  | supplied name description kind =>
    refine ⟨_, j.afterCall w (.route name .isApplicable), rfl, ?_, ?_⟩
    · rw [Journal.books_afterCall]
      simp [asking]
    · exact fun _ e => World.allows_of_answer e
  | known kind =>
    cases kind with
    | environment => exact ⟨_, j, rfl, hknown _⟩
    | unixSocket => exact ⟨_, j, rfl, hknown _⟩
    | namedPipe => exact ⟨_, j, rfl, hknown _⟩
    | dockerMachine =>
      refine ⟨_, j.afterCall w (.findExecutable machineProgram), rfl, ?_, ?_⟩
      · rw [Journal.books_afterCall]
        simp [asking]
      · exact fun _ e => World.allows_of_answer e

/-! ### Opening a client -/

def creating (r : Route) : List Mark :=
  match r.way with
  | .known _ => []
  | .supplied name _ _ => [.created name]

/-- An ending at which one client has been opened, the one it answers with, or none. -/
structure EndsOpening (w : World) (marks : List Mark) (r : Route) (j : Journal)
    (ending : Except Fault Client × Route × Journal) : Prop where
  books : ending.2.2.books w = j.books w ++ { marks, opened := ending.1.toOption.toList }
  kept : ending.2.1.bare = r.bare
  allowed : ∀ fault, ending.1 = .error fault → w.Allows fault

/-- An action that opens the client it answers with, and stands aside otherwise. -/
def Opens (w : World) (marks : List Mark) (act : Action Route Client) : Prop :=
  ∀ r j, EndsOpening w marks r j (act w r j)

theorem Opens.clientFor (environment : Record String) (timeout : Int) :
    Opens w [] (call (.clientFor environment timeout)) := by
  refine fun r j => ⟨?_, rfl, fun _ e => World.allows_of_answer e⟩
  rw [run_call, Journal.books_afterCall]
  simp

theorem Opens.clientAt (url : String) (timeout : Int) (tls : Option Tls) :
    Opens w [] (call (.clientAt url timeout tls)) := by
  refine fun r j => ⟨?_, rfl, fun _ e => World.allows_of_answer e⟩
  rw [run_call, Journal.books_afterCall]
  simp

theorem Opens.createClient (name : String) :
    Opens w [.created name] (call (.route name .createClient)) := by
  refine fun r j => ⟨?_, rfl, fun _ e => World.allows_of_answer e⟩
  rw [run_call, Journal.books_afterCall]
  simp

/-- Steps aside may come before the client is opened. -/
theorem Opens.bind {α : Type} {act : Action Route α} {next : α → Action Route Client}
    (h : StandsAside w bare act) (hn : ∀ a, Opens w [] (next a)) :
    Opens w [] (act >>= next) := by
  intro r j
  rcases e : act w r j with ⟨fault | a, r', j'⟩
  · rw [run_bind_error e]
    refine ⟨?_, h.kept e, fun _ hf => by cases hf; exact h.allowed e⟩
    rw [h.books e]
    exact (Books.append_nil _).symm
  · rw [run_bind_ok e]
    obtain ⟨hbooks, hkept, hallowed⟩ := hn a r' j'
    exact ⟨by rw [hbooks, h.books e], hkept.trans (h.kept e), hallowed⟩

theorem endsOpening_openClient (w : World) (r : Route) (j : Journal) :
    EndsOpening w r.creating r j (openClient w r j) := by
  obtain ⟨way, settings, held, host, machine⟩ := r
  cases way with
  | supplied name description kind => exact Opens.createClient name _ j
  | known kind =>
    cases kind with
    | environment => exact Opens.clientFor _ _ _ j
    | unixSocket => exact Opens.clientAt _ _ _ _ j
    | namedPipe => exact Opens.clientAt _ _ _ _ j
    | dockerMachine =>
      have opens : Opens w [] (do
          let name ← machineName
          let url ← runMachine settings ["url", name]
          log .debug "Using docker-machine" [("machine", .text name), ("url", .text url)]
          let tls ← machineTls
          call (.clientAt url settings.probeTimeout (some tls))) := by
        refine .bind standsAside_machineName (fun name => ?_)
        refine .bind (standsAside_runMachine _ _) (fun url => .bind (.log rfl) (fun _ => ?_))
        exact .bind standsAside_machineTls (fun tls => .clientAt _ _ _)
      exact opens _ j

/-! ### Finding the host -/

theorem standsAside_defaultGateway (path : String) :
    StandsAside w bare (Address.defaultGateway path : Action Route (Option String)) := by
  refine .afterRead ?_
  split
  · exact .bind (.ofExcept (.mapError (fun _ => rfl) _)) (fun _ => .pure _)
  · next problem hread =>
    exact .ite (.bind (.log rfl) (fun _ => .pure none)) (.fail (fun hw => hw.files _ _ hread))

theorem standsAside_findHost : StandsAside w bare findHost := by
  refine .bind .get (fun r => .afterRead ?_)
  split
  · exact .bind (.ofExcept (.mapError (fun _ => rfl) _)) (fun _ => .pure _)
  · refine .ite (.bind (standsAside_defaultGateway _) (fun gateway => ?_)) (.pure _)
    split
    · exact .pure _
    · exact .pure _
  · exact .pure _
  · refine .bind standsAside_machineName (fun name => ?_)
    exact .bind (standsAside_runMachine _ _) (fun _ => .pure _)
  · exact .call rfl

/-! ### Closing a client -/

/-- A client is closed by one call, and of the trouble with it only an interrupt goes further. -/
theorem closeQuietly_cases (w : World) (k : Client) (s : σ) (j : Journal) :
    ∃ result j', closeQuietly k w s j = (result, s, j') ∧
      (j.afterCall w (.client k .close)).Aside j' ∧
      ∀ fault, result = .error fault → fault.problem.isException = false ∧
        (w.answer j.events (.client k .close)).result = .error fault.problem := by
  rw [closeQuietly, run_bind_ok (run_attempt _), onClient]
  cases hr : (w.answer j.events (.client k .close)).result with
  | ok a =>
    rw [run_call_ok hr]
    exact ⟨.ok (), _, rfl, .refl _ _, fun _ h => by cases h⟩
  | error problem =>
    rw [run_call_error hr]
    cases hp : (Fault.of problem).problem.isException with
    | true =>
      simp only [hp, if_true]
      exact ⟨.ok (), _, rfl, .add (Event.isAside_logged (by decide) (by decide)) _,
        fun _ h => by cases h⟩
    | false =>
      simp only [hp, Bool.false_eq_true, if_false]
      refine ⟨_, _, rfl, .refl _ _, fun fault hfault => ?_⟩
      cases hfault
      exact ⟨hp, rfl⟩

/-- Where closing a client is not interrupted, nothing comes of it. -/
theorem closeQuietly_of_uninterrupted {k : Client}
    (hk : ∀ events problem, (w.answer events (.client k .close)).result = .error problem →
      problem.isException = true) (s : σ) (j : Journal) :
    ∃ j', closeQuietly k w s j = (.ok (), s, j') ∧
      (j.afterCall w (.client k .close)).Aside j' := by
  obtain ⟨result, j', hrun, hj, hfault⟩ := closeQuietly_cases w k s j
  cases result with
  | ok u => exact ⟨j', hrun, hj⟩
  | error fault =>
    obtain ⟨hf, hanswer⟩ := hfault fault rfl
    rw [hk _ _ hanswer] at hf
    cases hf

/-- In a calm world a client is closed by one call, and trouble with it goes no further. -/
theorem closeQuietly_run (hw : w.Calm) (k : Client) (s : σ) (j : Journal) :
    ∃ j', closeQuietly k w s j = (.ok (), s, j') ∧
      (j.afterCall w (.client k .close)).Aside j' :=
  closeQuietly_of_uninterrupted (fun _ _ h => hw.answers _ _ _ h) s j

/-! ### Reaching the daemon -/

/-- What a probe has to achieve: an open client, an answer, and the address of the host. -/
def reach : Action Route (Client × Option String) := do
  let client ← openClient
  let host ← greet client
  return (client, host)

theorem standsAside_greet (client : Client) : StandsAside w bare (greet client) :=
  .bind (.call rfl) (fun _ => standsAside_findHost)

theorem reach_eq_ok {k : Client} {host : Option String}
    (h : reach w r j = (.ok (k, host), r', j')) :
    ∃ r₀ j₀, openClient w r j = (.ok k, r₀, j₀) ∧ greet k w r₀ j₀ = (.ok host, r', j') := by
  rcases run_bind_cases h with ⟨k', r₀, j₀, hopen, h⟩ | ⟨fault, _, h⟩
  · rcases run_bind_cases h with ⟨host', r₁, j₁, hgreet, h⟩ | ⟨fault, _, h⟩
    · cases h
      exact ⟨r₀, j₀, hopen, hgreet⟩
    · cases h
  · cases h

theorem reach_eq_error {fault : Fault} (h : reach w r j = (.error fault, r', j')) :
    openClient w r j = (.error fault, r', j') ∨
      ∃ k r₀ j₀, openClient w r j = (.ok k, r₀, j₀) ∧
        greet k w r₀ j₀ = (.error fault, r', j') := by
  rcases run_bind_cases h with ⟨k, r₀, j₀, hopen, h⟩ | ⟨fault', hopen, h⟩
  · rcases run_bind_cases h with ⟨host, r₁, j₁, hgreet, h⟩ | ⟨fault', hgreet, h⟩
    · cases h
    · cases h
      exact .inr ⟨k, r₀, j₀, hopen, hgreet⟩
  · cases h
    exact .inl hopen

/-- A daemon that is reached leaves one client open. -/
theorem books_of_reached {k : Client} {host : Option String}
    (h : reach w r j = (.ok (k, host), r', j')) :
    r'.bare = r.bare ∧ j'.books w = j.books w ++ { marks := r.creating, opened := [k] } := by
  obtain ⟨r₀, j₀, hopen, hgreet⟩ := reach_eq_ok h
  have ho := endsOpening_openClient w r j
  rw [hopen] at ho
  have hg := standsAside_greet (w := w) k
  exact ⟨(hg.kept hgreet).trans ho.kept, (hg.books hgreet).trans ho.books⟩

/-! ### Probing -/

/-- The request timeout of a reached client is set, and the route keeps the client. -/
theorem probe_of_reached {k : Client} {host : Option String}
    (h : reach w r j = (.ok (k, host), r', j')) :
    probe w r j = (.ok k, { r' with held := some k, host },
      j'.add (.called (.client k (.setTimeout r'.settings.timeout)))) := by
  obtain ⟨r₀, j₀, hopen, hgreet⟩ := reach_eq_ok h
  rw [probe, run_bind_ok hopen, run_bind_ok (run_attempt _)]
  rw [hgreet]
  rfl

/-- A probe gets through by way of an open client that is greeted. -/
theorem probe_eq_ok {k : Client} (h : probe w r j = (.ok k, r', j')) :
    ∃ r₀ j₀ r₁ j₁ host, openClient w r j = (.ok k, r₀, j₀) ∧ greet k w r₀ j₀ = (.ok host, r₁, j₁) ∧
      r' = { r₁ with held := some k, host } ∧
      j' = j₁.add (.called (.client k (.setTimeout r₁.settings.timeout))) := by
  rcases run_bind_cases h with ⟨k₀, r₀, j₀, hopen, h⟩ | ⟨fault, -, h⟩
  · rw [run_bind_ok (run_attempt _)] at h
    rcases hgreet : greet k₀ w r₀ j₀ with ⟨fault | host, r₁, j₁⟩
    · rw [hgreet] at h
      simp only at h
      split at h
      · rcases run_bind_cases h with ⟨u, r₂, j₂, -, h⟩ | ⟨fault', -, h⟩
        · cases h
        · cases h
      · cases h
    · rw [hgreet] at h
      cases h
      exact ⟨r₀, j₀, r₁, j₁, host, hopen, hgreet, rfl, rfl⟩
  · cases h

/-- A client that is opened but does not get through is closed by one call, and the probe ends as
the ping or the search for the host did, whatever comes of the call. -/
theorem probe_of_ungreeted (hw : w.Calm) {k : Client} {r₀ : Route} {j₀ : Journal} {fault : Fault}
    (hopen : openClient w r j = (.ok k, r₀, j₀))
    (hgreet : greet k w r₀ j₀ = (.error fault, r', j')) :
    ∃ j'', probe w r j = (.error fault, r', j'') ∧
      (j'.afterCall w (.client k .close)).Aside j'' := by
  have hf : fault.problem.isException = true := (standsAside_greet k).allowed hgreet hw
  obtain ⟨j'', hclose, hj⟩ := closeQuietly_run hw k r' j'
  refine ⟨j'', ?_, hj⟩
  rw [probe, run_bind_ok hopen, run_bind_ok (run_attempt _)]
  simp only [hgreet, hf, if_true]
  rw [run_bind_ok hclose, run_fail]

/-- A probe fails as the attempt to reach the daemon did, and closes the client that it has
opened. -/
theorem probe_of_unreached (hw : w.Calm) {fault : Fault}
    (h : reach w r j = (.error fault, r', j')) :
    ∃ (opened : Option Client) (j'' : Journal), probe w r j = (.error fault, r', j'') ∧
      r'.bare = r.bare ∧ fault.problem.isException = true ∧
      j''.books w = j.books w ++
        { marks := r.creating, opened := opened.toList, closed := opened.toList } := by
  have ho := endsOpening_openClient w r j
  rcases reach_eq_error h with hopen | ⟨k, r₀, j₀, hopen, hgreet⟩
  · rw [hopen] at ho
    refine ⟨none, j', ?_, ho.kept, ho.allowed fault rfl hw, ho.books⟩
    rw [probe, run_bind_error hopen]
  · rw [hopen] at ho
    have hg := standsAside_greet (w := w) k
    obtain ⟨j'', hprobe, hj⟩ := probe_of_ungreeted hw hopen hgreet
    refine ⟨some k, j'', hprobe, (hg.kept hgreet).trans ho.kept, hg.allowed hgreet hw, ?_⟩
    rw [Journal.books_of_aside hj w, Journal.books_afterCall, Event.entry_closed,
      hg.books hgreet, ho.books]
    simp [Books.append_def, Except.toOption]

end Mooring.Route
