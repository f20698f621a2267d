import Mooring.Proofs.Plain
import Mooring.Proofs.Route.Machine

/-! The life of a route to a virtual machine. Of the machines it runs commands about one alone,
however often it is probed and asked; a probe that gets through has run three of them, and one in
which any goes wrong leaves no client open. -/

namespace Mooring.Route

open Mooring.Action

variable {α β : Type} {w : World} {r r' r'' : Route} {name : String} {words : List String}
  {timeout : Int} {steps more : List Step} {k : Client}

/-! ### Probes that get through -/

/-- The route once its machine is settled. -/
def settledOn (r : Route) (name : String) : Route := { r with machine := some name }

/-- An action that takes these steps where it comes to a value. -/
def Achieves (w : World) (act : Action Route α) (r : Route)
    (post : List Step → α → Route → Prop) : Prop :=
  Does w act r (fun steps result r' => ∀ a, result = .ok a → post steps a r')

namespace Achieves

variable {act : Action Route α} {next : α → Action Route β} {post : List Step → α → Route → Prop}

theorem of_does {does : List Step → Except Fault α → Route → Prop} (h : Does w act r does)
    (hp : ∀ steps a r', does steps (.ok a) r' → post steps a r') : Achieves w act r post :=
  h.mono (fun _ _ _ hdoes _ ha => hp _ _ _ (ha ▸ hdoes))

theorem pure {a : α} (h : post [] a r) : Achieves w (Pure.pure a) r post :=
  Does.pure (fun _ ha => by cases ha; exact h)

theorem bind {post' : List Step → β → Route → Prop} (h : Achieves w act r post)
    (hn : ∀ steps a r', post steps a r' →
      Achieves w (next a) r' (fun rest b r'' => post' (steps ++ rest) b r'')) :
    Achieves w (act >>= next) r post' :=
  Does.bind h (fun steps a r' hpost => hn steps a r' (hpost a rfl)) (fun _ _ _ _ => nofun)

theorem call {c : Call} {post : List Step → c.Answer → Route → Prop}
    (h : ∀ a, post [.asked c (.ok a)] a r) : Achieves w (call c) r post := by
  refine Does.call (fun answer _ a ha => ?_)
  cases answer with
  | error problem => cases ha
  | ok b =>
    cases ha
    exact h _

theorem ask {c : Call} {next : c.Answer → Action Route β} {post : List Step → β → Route → Prop}
    (h : ∀ a, Achieves w (next a) r (fun rest b r' => post (.asked c (.ok a) :: rest) b r')) :
    Achieves w (Action.call c >>= next) r post :=
  Does.ask (fun a _ => h a) (fun _ _ _ => nofun)

theorem log {level : Level} {message : String} {fields : Record Value}
    {next : Unit → Action Route β} {post : List Step → β → Route → Prop}
    (h : Achieves w (next ()) r
      (fun rest b r' => post (.wrote level message fields :: rest) b r')) :
    Achieves w (Action.log level message fields >>= next) r post :=
  Does.afterLog h

end Achieves

theorem runMachine_achieves (settings : Settings) (arguments : List String) (r : Route) :
    Achieves w (runMachine settings arguments) r (fun steps out r' => ∃ result : CommandResult,
      result.code = 0 ∧ out = trimmed result ∧ r' = r ∧
      steps = [.asked (.runCommand (machineProgram :: arguments) settings.probeTimeout)
        (.ok result)]) := by
  refine .of_does (runMachine_does settings arguments r) ?_
  rintro steps out r' ⟨hanswered, rfl⟩
  cases hanswered with
  | done hcode => exact ⟨_, hcode, rfl, rfl, rfl⟩

/-- A listing by which the machine is found, or nothing. -/
def Fronts (r : Route) (name : String) (front : List Step) : Prop :=
  front = [] ∨ ∃ result, Names (.ok result) name ∧
    front = [.asked (.runCommand listing r.settings.probeTimeout) (.ok result)]

theorem machineName_achieves (r : Route) :
    Achieves w machineName r (fun steps name r' => Fronts r name steps ∧
      r' = r.settledOn name) := by
  refine .of_does (machineName_does r) ?_
  intro steps name r' hfinds
  cases hfinds with
  | settled hmachine => exact ⟨.inl rfl, by rw [settledOn, ← hmachine]⟩
  | configured hmachine hname => exact ⟨.inl rfl, rfl⟩
  | listed hmachine hnone hlisting hname =>
    cases hlisting with
    | done hcode => exact ⟨.inr ⟨_, (names_iff hcode).mpr hname, rfl⟩, rfl⟩

theorem machineName_achieves_settled (r : Route) :
    Achieves w machineName (r.settledOn name) (fun steps found r' =>
      steps = [] ∧ found = name ∧ r' = r.settledOn name) := by
  refine .of_does (machineName_does _) ?_
  intro steps found r' hfinds
  cases hfinds with
  | settled hmachine => exact ⟨rfl, (Option.some.inj hmachine).symm, rfl⟩
  | configured hmachine hname => cases hmachine
  | listed hmachine hnone hlisting hname => cases hmachine

/-- The certificates under a directory. -/
def certificatesIn (directory : String) : Tls where
  certificate := inDirectory directory "cert.pem"
  key := inDirectory directory "key.pem"
  authority := inDirectory directory "ca.pem"

theorem machineTls_achieves (r : Route) :
    Achieves w machineTls (r.settledOn name) (fun steps tls r' =>
      ∃ store : CommandResult, store.code = 0 ∧ tls = certificatesIn (trimmed store) ∧
        r' = r.settledOn name ∧
        steps = [.asked (.runCommand (storeOf name) r.settings.probeTimeout) (.ok store),
          .asked (.loadTls tls) (.ok ())]) := by
  refine (machineName_achieves_settled r).bind ?_
  rintro _ _ _ ⟨rfl, rfl, rfl⟩
  refine Does.afterGet ((runMachine_achieves r.settings _ _).bind ?_)
  rintro _ _ _ ⟨store, hcode, rfl, rfl, rfl⟩
  exact .ask (fun u => .pure ⟨store, hcode, rfl, rfl, rfl⟩)

/-- The steps by which a client is opened: the URL of the machine and its certificates are asked
for, and both go into the client. -/
def openingSteps (settings : Settings) (name : String) (url store : CommandResult) (k : Client) :
    List Step :=
  [.asked (.runCommand (urlOf name) settings.probeTimeout) (.ok url),
    .wrote .debug "Using docker-machine" [("machine", .text name), ("url", .text (trimmed url))],
    .asked (.runCommand (storeOf name) settings.probeTimeout) (.ok store),
    .asked (.loadTls (certificatesIn (trimmed store))) (.ok ()),
    .asked (.clientAt (trimmed url) settings.probeTimeout (some (certificatesIn (trimmed store))))
      (.ok k)]

theorem openClient_achieves (hway : r.way = .known .dockerMachine) :
    Achieves w openClient r (fun steps k r' =>
      ∃ (name : String) (front : List Step) (url store : CommandResult), Fronts r name front ∧
        url.code = 0 ∧ store.code = 0 ∧ r' = r.settledOn name ∧
        steps = front ++ openingSteps r.settings name url store k) := by
  refine openClient_does hway ((machineName_achieves r).bind ?_)
  rintro front name _ ⟨hfront, rfl⟩
  refine (runMachine_achieves r.settings _ _).bind ?_
  rintro _ _ _ ⟨url, hurl, rfl, rfl, rfl⟩
  refine .log ((machineTls_achieves r).bind ?_)
  rintro _ _ _ ⟨store, hstore, rfl, rfl, rfl⟩
  exact .call (fun k => ⟨name, front, url, store, hfront, hurl, hstore, rfl, by
    simp [openingSteps, urlOf]⟩)

/-- The steps by which the daemon is greeted: it answers a ping, and the address of its machine is
asked for. -/
def greetingSteps (settings : Settings) (name : String) (address : CommandResult) (k : Client) :
    List Step :=
  [.asked (.client k .ping) (.ok ()),
    .asked (.runCommand (addressOf name) settings.probeTimeout) (.ok address)]

theorem greet_achieves (hway : r.way = .known .dockerMachine) (k : Client) :
    Achieves w (greet k) (r.settledOn name) (fun steps host r' =>
      ∃ address : CommandResult, address.code = 0 ∧ host = some (trimmed address) ∧
        r' = r.settledOn name ∧ steps = greetingSteps r.settings name address k) := by
  refine .ask (fun u => findHost_does hway ((machineName_achieves_settled r).bind ?_))
  rintro _ _ _ ⟨rfl, rfl, rfl⟩
  refine (runMachine_achieves r.settings _ _).bind ?_
  rintro _ _ _ ⟨address, hcode, rfl, rfl, rfl⟩
  exact .pure ⟨address, hcode, rfl, rfl, rfl⟩

/-- What a probe that gets through has done, and the route as it is then: its machine was found, and
about that machine the URL, the certificates and the address were asked for, in this order and
nothing else. -/
def Reaches (r : Route) (k : Client) (steps : List Step) (r' : Route) : Prop :=
  ∃ (name : String) (front : List Step) (url store address : CommandResult)
    (answer : Except Problem Unit),
    Fronts r name front ∧ url.code = 0 ∧ store.code = 0 ∧ address.code = 0 ∧
    r' = { r.settledOn name with held := some k, host := some (trimmed address) } ∧
    steps = front ++ openingSteps r.settings name url store k ++
      greetingSteps r.settings name address k ++
      [.asked (.client k (.setTimeout r.settings.timeout)) answer]

theorem reaches_of_probe (hway : r.way = .known .dockerMachine) {j j' : Journal}
    (h : probe w r j = (.ok k, r', j')) :
    ∃ steps, j'.steps w = j.steps w ++ steps ∧ Reaches r k steps r' := by
  obtain ⟨r₀, j₀, r₁, j₁, host, hopen, hgreet, rfl, rfl⟩ := probe_eq_ok h
  obtain ⟨opening, hopening, hopened⟩ := (openClient_achieves hway).run hopen
  obtain ⟨name, front, url, store, hfront, hurl, hstore, rfl, rfl⟩ := hopened k rfl
  obtain ⟨greeting, hgreeting, hgreeted⟩ := (greet_achieves hway k).run hgreet
  obtain ⟨address, haddress, rfl, rfl, rfl⟩ := hgreeted _ rfl
  refine ⟨_, ?_, name, front, url, store, address,
    (w.answer j₁.events (.client k (.setTimeout r.settings.timeout))).result, hfront, hurl, hstore,
    haddress, rfl, rfl⟩
  rw [Journal.steps_add, hgreeting, hopening]
  simp only [List.append_assoc]
  rfl

/-! ### Probes in which a command goes wrong -/

/-- A command that reports trouble, or a listing of no machine. -/
def Wanting (c : Ran) : Prop :=
  ∃ result, c.2 = .ok result ∧
    (result.code ≠ 0 ∨ c.1 = listing ∧ ∀ name, ¬ Lists result.output name)

/-- An action that fails if one of its commands is found wanting. -/
def Heeds (w : World) (act : Action Route α) : Prop :=
  ∀ r : Route, r.way = .known .dockerMachine → Does w act r (fun steps result r' =>
    r'.way = r.way ∧ ∀ c ∈ commands steps, Wanting c →
      ∃ fault, result = .error fault ∧ fault.problem.isException = true)

theorem Answered.heeds {result : Except Fault String} (h : Answered words timeout steps result)
    (hwords : words ≠ listing) : ∀ c ∈ commands steps, Wanting c →
      ∃ fault, result = .error fault ∧ fault.problem.isException = true := by
  intro c hc hwanting
  cases h with
  | done hcode =>
    rw [List.mem_singleton.mp hc] at hwanting
    obtain ⟨_, ⟨⟩, hne | ⟨hlisting, -⟩⟩ := hwanting
    · exact absurd hcode hne
    · exact absurd hlisting hwords
  | refused hcode hfault => exact ⟨_, rfl, hfault⟩
  | troubled =>
    rw [List.mem_singleton.mp hc] at hwanting
    obtain ⟨_, ⟨⟩, -⟩ := hwanting

theorem Finds.heeds {result : Except Fault String} (h : Finds r steps result r') :
    ∀ c ∈ commands steps, Wanting c →
      ∃ fault, result = .error fault ∧ fault.problem.isException = true := by
  intro c hc hwanting
  cases h with
  | settled hmachine => cases hc
  | configured hmachine hname => cases hc
  | listed hmachine hnone hlisting hname =>
    cases hlisting with
    | done hcode =>
      rw [List.mem_singleton.mp hc] at hwanting
      obtain ⟨_, ⟨⟩, hne | ⟨-, hlists⟩⟩ := hwanting
      · exact absurd hcode hne
      · obtain ⟨_, ⟨⟩, -, hlist⟩ := (names_iff hcode).mpr hname
        exact absurd hlist (hlists _)
  | unlisted hmachine hnone hlisting hname hfault => exact ⟨_, rfl, hfault⟩
  | failed hmachine hnone hlisting =>
    cases hlisting with
    | refused hcode hfault => exact ⟨_, rfl, hfault⟩
    | troubled =>
      rw [List.mem_singleton.mp hc] at hwanting
      obtain ⟨_, ⟨⟩, -⟩ := hwanting

namespace Heeds

variable {act : Action Route α} {next : α → Action Route β}

theorem pure (a : α) : Heeds w (Pure.pure a : Action Route α) :=
  fun _ _ => Does.pure ⟨rfl, fun _ hc => by cases hc⟩

theorem get : Heeds w (get : Action Route Route) :=
  fun _ _ _ => ⟨[], (List.append_nil _).symm, rfl, fun _ hc => by cases hc⟩

theorem log {level : Level} {message : String} {fields : Record Value} :
    Heeds w (log level message fields : Action Route Unit) :=
  fun _ _ => Does.log ⟨rfl, fun _ hc => by cases hc⟩

/-- A call that runs no command. -/
theorem call {c : Call} (h : ∀ answer, (Step.asked c answer).command? = none) :
    Heeds w (call c : Action Route c.Answer) := by
  refine fun r _ => Does.call (fun answer _ => ⟨rfl, fun c hc => ?_⟩)
  rw [commands, List.filterMap_cons_none (h answer)] at hc
  cases hc

theorem bind (h : Heeds w act) (hn : ∀ a, Heeds w (next a)) : Heeds w (act >>= next) := by
  intro r hway
  refine (h r hway).bind ?_ ?_
  · rintro steps a r' ⟨hkept, hsteps⟩
    refine (hn a r' (hkept.trans hway)).mono ?_
    rintro more result r'' ⟨hkept', hmore⟩
    refine ⟨hkept'.trans hkept, fun c hc hwanting => ?_⟩
    rw [commands_append, List.mem_append] at hc
    rcases hc with hc | hc
    · obtain ⟨_, ⟨⟩, -⟩ := hsteps c hc hwanting
    · exact hmore c hc hwanting
  · rintro steps fault r' ⟨hkept, hsteps⟩
    refine ⟨hkept, fun c hc hwanting => ?_⟩
    obtain ⟨_, ⟨⟩, hfault⟩ := hsteps c hc hwanting
    exact ⟨fault, rfl, hfault⟩

theorem runMachine {settings : Settings} {arguments : List String} (h : arguments ≠ ["ls", "-q"]) :
    Heeds w (runMachine settings arguments : Action Route String) := by
  intro r _
  refine (runMachine_does settings arguments r).mono ?_
  rintro steps result _ ⟨hanswered, rfl⟩
  exact ⟨rfl, hanswered.heeds (fun heq => h (List.tail_eq_of_cons_eq heq))⟩

theorem machineName : Heeds w machineName :=
  fun r _ => (machineName_does r).mono (fun _ _ _ h => ⟨h.advance.1.way, h.heeds⟩)

theorem machineTls : Heeds w machineTls := by
  refine .bind .machineName (fun name => .bind .get (fun r => ?_))
  refine .bind (.runMachine (by simp)) (fun store => ?_)
  exact .bind (.call (fun _ => rfl)) (fun _ => .pure _)

theorem openMachine (settings : Settings) : Heeds w (openMachine settings) := by
  refine .bind .machineName (fun name => .bind (.runMachine (by simp)) (fun url => ?_))
  exact .bind .log (fun _ => .bind .machineTls (fun tls => .call (fun _ => rfl)))

theorem openClient : Heeds w openClient :=
  fun r hway => openClient_does hway (openMachine r.settings r hway)

theorem machineAddress (settings : Settings) : Heeds w (machineAddress settings) :=
  .bind .machineName (fun name => .bind (.runMachine (by simp)) (fun _ => .pure _))

theorem findHost : Heeds w findHost :=
  fun r hway => findHost_does hway (machineAddress r.settings r hway)

theorem greet (k : Client) : Heeds w (greet k) := .bind (.call (fun _ => rfl)) (fun _ => .findHost)

end Heeds

section Failing

variable {r₁ r₂ : Route} {j j₁ j₂ j' : Journal} {result : Except Fault Client}

/-- The client of an earlier probe is still held when the daemon has been greeted. -/
theorem held_of_greet (hopen : openClient w r j = (.ok k, r₁, j₁))
    {ending : Except Fault (Option String)} (hgreet : greet k w r₁ j₁ = (ending, r₂, j₂)) :
    r₂.held = r.held := by
  have hopened := (endsOpening_openClient w r j).kept
  rw [hopen] at hopened
  have hkept := ((standsAside_greet k).kept hgreet).trans hopened
  rw [bare_eq_iff] at hkept
  exact hkept.2.2.1

/-- A greeting in vain fails the probe, and the client is closed. -/
theorem failed_of_greet (hopen : openClient w r j = (.ok k, r₁, j₁)) {fault : Fault}
    (hgreet : greet k w r₁ j₁ = (.error fault, r₂, j₂)) (hfault : fault.problem.isException = true)
    (h : probe w r j = (result, r', j')) :
    ∃ fault, result = .error fault ∧ r'.held = r.held ∧ j.Leaves w none j' := by
  have hheld := held_of_greet hopen hgreet
  have hleaves := (leaves_of_opened hopen).followed_aside ((standsAside_greet k).aside hgreet)
  rw [probe_of_failed hopen hgreet] at h
  simp only [hfault, if_true] at h
  obtain ⟨closing, j₃, hclose, haside, -⟩ := closeQuietly_cases w k r₂ j₂
  cases closing with
  | ok u =>
    rw [run_bind_ok hclose, run_fail] at h
    cases h
    exact ⟨fault, rfl, hheld, hleaves.closing haside⟩
  | error fault' =>
    rw [run_bind_error hclose] at h
    cases h
    exact ⟨fault', rfl, hheld, hleaves.closing haside⟩

/-- After a greeting that came to a value, or that was cut off, no command is run. -/
theorem uncommanding_of_greet (hopen : openClient w r j = (.ok k, r₁, j₁))
    {ending : Except Fault (Option String)} (hgreet : greet k w r₁ j₁ = (ending, r₂, j₂))
    (hending : ∀ fault, ending = .error fault → fault.problem.isException = false)
    (h : probe w r j = (result, r', j')) :
    ∃ rest, j'.steps w = j₂.steps w ++ rest ∧ commands rest = [] := by
  cases ending with
  | error fault =>
    rw [probe_of_failed hopen hgreet] at h
    simp only [hending fault rfl, Bool.false_eq_true, if_false, run_fail] at h
    cases h
    exact ⟨[], (List.append_nil _).symm, rfl⟩
  | ok host =>
    have hreach : reach w r j = (.ok (k, host), r₂, j₂) := by
      rw [reach, run_bind_ok hopen, run_bind_ok hgreet]
      rfl
    rw [probe_of_reached hreach] at h
    cases h
    exact ⟨_, Journal.steps_add _ _ _, rfl⟩

/-- A command that is found wanting fails the probe, and the client that was open by then is closed.
The client of an earlier probe is held as before. -/
theorem failed_of_wanting (hway : r.way = .known .dockerMachine)
    (h : probe w r j = (result, r', j')) (hsteps : j'.steps w = j.steps w ++ steps) {c : Ran}
    (hc : c ∈ commands steps) (hwanting : Wanting c) :
    ∃ fault, result = .error fault ∧ r'.held = r.held ∧ j.Leaves w none j' := by
  rcases hopen : openClient w r j with ⟨fault | k, r₁, j₁⟩
  · rw [probe, run_bind_error hopen] at h
    cases h
    have hkept := (endsOpening_openClient w r j).kept
    rw [hopen, bare_eq_iff] at hkept
    exact ⟨fault, rfl, hkept.2.2.1, leaves_of_unopened hopen⟩
  · obtain ⟨opening, hopening, hway', hopened⟩ := (Heeds.openClient r hway).run hopen
    rcases hgreet : greet k w r₁ j₁ with ⟨ending, r₂, j₂⟩
    obtain ⟨greeting, hgreeting, -, hgreeted⟩ := (Heeds.greet k r₁ (hway'.trans hway)).run hgreet
    by_cases hfailed : ∃ fault, ending = .error fault ∧ fault.problem.isException = true
    · obtain ⟨fault, rfl, hfault⟩ := hfailed
      exact failed_of_greet hopen hgreet hfault h
    · -- a client was opened, so it is the greeting that had the command, and it has failed
      have hending : ∀ fault, ending = .error fault → fault.problem.isException = false :=
        fun fault hfault => Bool.eq_false_iff.mpr fun he => hfailed ⟨fault, hfault, he⟩
      obtain ⟨rest, hrest, hnone⟩ := uncommanding_of_greet hopen hgreet hending h
      rw [hrest, hgreeting, hopening, List.append_assoc, List.append_assoc] at hsteps
      rw [← List.append_cancel_left hsteps, commands_append, commands_append, hnone,
        List.append_nil, List.mem_append] at hc
      rcases hc with hc | hc
      · obtain ⟨_, ⟨⟩, -⟩ := hopened c hc hwanting
      · exact absurd (hgreeted c hc hwanting) hfailed

end Failing

/-! ### Lives -/

/-- What a route is told to do, or asked. -/
inductive Order where
  | apply
  | probe
  | name
  | create
  | certificates
  | find
  | client
  | host
  | describe
  | close
  deriving DecidableEq, Repr

def Order.act : Order → Action Route Unit
  | .apply => do let _ ← isApplicable
  | .probe => do let _ ← Route.probe
  | .name => do let _ ← machineName
  | .create => do let _ ← openClient
  | .certificates => do let _ ← machineTls
  | .find => do let _ ← findHost
  | .client => do let _ ← Route.client (← get)
  | .host => do let _ ← hostAddress (← get)
  | .describe => do let _ ← Route.describe (← get)
  | .close => Route.close

/-- Carries out orders one after another, whatever comes of each. -/
def obey : List Order → Action Route Unit
  | [] => pure ()
  | order :: orders => do
    let _ ← attempt order.act
    obey orders

namespace Advances

variable {known : Option String}

theorem describe (r : Route) : Advances w known (describe r : Action Route String) :=
  fun _ _ _ => Does.afterRead (.pure (.quiet rfl rfl rfl rfl))

theorem client (r : Route) : Advances w known (client r : Action Route Client) := by
  rw [Route.client]
  split
  · exact .pure _
  · exact .bind (.describe r) (fun _ => .fail _)

theorem hostAddress (r : Route) : Advances w known (hostAddress r : Action Route String) := by
  rw [Route.hostAddress]
  split
  · exact .pure _
  · exact .bind (.describe r) (fun _ => .fail _)

theorem act (order : Order) : Advances w known order.act := by
  have ignore {α : Type} {act : Action Route α} (h : Advances w known act) :
      Advances w known (do let _ ← act) := .bind h (fun _ => .pure _)
  cases order with
  | apply => exact ignore .isApplicable
  | probe => exact ignore .probe
  | name => exact ignore .machineName
  | create => exact ignore .openClient
  | certificates => exact ignore .machineTls
  | find => exact ignore .findHost
  | client => exact .bind .get (fun r => ignore (.client r))
  | host => exact .bind .get (fun r => ignore (.hostAddress r))
  | describe => exact .bind .get (fun r => ignore (.describe r))
  | close => exact .close

theorem obey (orders : List Order) : Advances w known (obey orders) := by
  induction orders with
  | nil => exact .pure _
  | cons order orders ih => exact .bind (.attempt (.act order)) (fun _ => ih)

end Advances

theorem obey_run (orders : List Order) (r : Route) (j : Journal) :
    (obey orders w r j).1 = .ok () := by
  induction orders generalizing r j with
  | nil => rfl
  | cons order orders ih =>
    rw [obey, run_bind_ok (run_attempt _)]
    exact ih _ _

/-- All commands of a route's life are about one machine. If the settings name it, nothing is
listed. Otherwise the machines are listed until a listing names one; that is the last listing, and
whatever is run afterwards is about the first machine of it. A probe at any time fails if a command
reports trouble or nothing is listed, and leaves no client open; if it gets through, it has asked
for the URL, the certificates and the address of the machine, and its client is made of the first
two. -/
theorem machine_of_life (hway : r.way = .known .dockerMachine) (hfresh : r.machine = none)
    (orders : List Order) (w : World) (j : Journal) :
    ∃ r' j' steps, obey orders w r j = (.ok (), r', j') ∧ j'.steps w = j.steps w ++ steps ∧
      (∀ name, r.settings.machineName = some name → name ≠ "" →
        ∀ c ∈ commands steps, c.1 ≠ listing ∧ c.1 ∈ about name) ∧
      (r.settings.machineName = none ∨ r.settings.machineName = some "" →
        ∃ failed, (∀ c ∈ failed, c.1 = listing ∧ ∀ name, ¬ Names c.2 name) ∧
          (commands steps = failed ∨ ∃ name answer rest,
            commands steps = failed ++ (listing, answer) :: rest ∧ Names answer name ∧
            ∀ c ∈ rest, c.1 ≠ listing ∧ c.1 ∈ about name)) ∧
      ∃ result r'' j'' more, probe w r' j' = (result, r'', j'') ∧
        j''.steps w = j'.steps w ++ more ∧
        (∀ c ∈ commands more, Wanting c →
          ∃ fault, result = .error fault ∧ r''.held = r'.held ∧ j'.Leaves w none j'') ∧
        ∀ k, result = .ok k → Reaches r' k more r'' := by
  have apart {name : String} {c : Ran} (hc : c.1 ∈ about name) : c.1 ≠ listing ∧ c.1 ∈ about name :=
    ⟨fun heq => listing_not_mem_about name (heq ▸ hc), hc⟩
  rcases hobey : obey orders w r j with ⟨ending, r', j'⟩
  obtain rfl : ending = .ok () := by
    have hrun := obey_run orders (w := w) r j
    rwa [hobey] at hrun
  have hobeys : Advances w none (obey orders) := .obey orders
  obtain ⟨steps, hsteps, hadvance⟩ := (hobeys r hway nofun).run hobey
  have hcourse := hadvance.course [] (by rw [hfresh]; exact .start)
  rw [List.nil_append, hadvance.settings] at hcourse
  refine ⟨r', j', steps, rfl, hsteps, ?_, ?_, ?_⟩
  · intro name hname hne c hc
    have hconfigured : configured r.settings = some name := by simp [configured, hname, hne]
    exact apart ((hcourse.of_configured hconfigured).2.2 c hc)
  · intro hname
    have hnone : configured r.settings = none := by
      rcases hname with hname | hname <;> simp [configured, hname]
    obtain ⟨failed, hfailed, ⟨-, hall⟩ | ⟨name, answer, rest, -, hall, hanswer, hrest⟩⟩ :=
      hcourse.of_unconfigured hnone
    · exact ⟨failed, hfailed, .inl hall⟩
    · exact ⟨failed, hfailed, .inr ⟨name, answer, rest, hall, hanswer,
        fun c hc => apart (hrest c hc)⟩⟩
  · have hway' : r'.way = .known .dockerMachine := hadvance.way.trans hway
    rcases hprobe : probe w r' j' with ⟨result, r'', j''⟩
    have hprobes : Advances w none probe := .probe
    obtain ⟨more, hmore, -⟩ := (hprobes r' hway' nofun).run hprobe
    refine ⟨result, r'', j'', more, rfl, hmore, ?_, ?_⟩
    · exact fun c hc hwanting => failed_of_wanting hway' hprobe hmore hc hwanting
    · rintro k rfl
      obtain ⟨steps', hsteps', hreaches⟩ := reaches_of_probe hway' hprobe
      rw [hmore] at hsteps'
      rwa [List.append_cancel_left hsteps']

/-- The answers of a workshop, whose first listing fails. -/
def workshopAnswer (events : List Event) (arguments : List String) : CommandResult :=
  match events, arguments with
  | [], _ => { output := "", complaint := "not yet", code := 1 }
  | _, ["ls", "-q"] => { output := "\n  dev \nstaging\n", complaint := "", code := 0 }
  | _, "url" :: _ => { output := "tcp://10.0.0.5:2376\n", complaint := "", code := 0 }
  | _, "inspect" :: _ => { output := "/machines/dev\n", complaint := "", code := 0 }
  | _, _ => { output := "10.0.0.5\n", complaint := "", code := 0 }

def workshop : World :=
  { World.plain (fun _ => none) with
    answer := fun events c =>
      match c with
      | .runCommand words _ => { result := .ok (workshopAnswer events words.tail) }
      | c => { result := .ok c.plain } }

def visitor : Route := { way := .known .dockerMachine, settings := .plain }

/-- The machine is listed once more after the first listing has failed, and not again. -/
theorem machine_workshop : ∃ r' j' steps,
    obey [.probe, .probe, .name] workshop visitor {} = (.ok (), r', j') ∧
    j'.steps workshop = steps ∧
    (commands steps).map Prod.fst =
      [listing, listing, urlOf "dev", storeOf "dev", addressOf "dev"] ∧
    (∃ failed, (∀ c ∈ failed, c.1 = listing ∧ ∀ name, ¬ Names c.2 name) ∧
      (commands steps = failed ∨ ∃ name answer rest,
        commands steps = failed ++ (listing, answer) :: rest ∧ Names answer name ∧
        ∀ c ∈ rest, c.1 ≠ listing ∧ c.1 ∈ about name)) ∧
    ∃ k r'' j'' more, probe workshop r' j' = (.ok k, r'', j'') ∧ Reaches r' k more r'' := by
  obtain ⟨r', j', steps, hobey, hsteps, -, hunconfigured, result, r'', j'', more, hprobe, -, -,
    hreaches⟩ := machine_of_life (r := visitor) rfl rfl [.probe, .probe, .name] workshop {}
  have hsteps : j'.steps workshop = steps := hsteps
  have hwords : (commands ((obey [.probe, .probe, .name] workshop visitor {}).2.2.steps
      workshop)).map Prod.fst =
      [listing, listing, urlOf "dev", storeOf "dev", addressOf "dev"] := by
    decide +kernel
  have hgets : (probe workshop (obey [.probe, .probe, .name] workshop visitor {}).2.1
      (obey [.probe, .probe, .name] workshop visitor {}).2.2).1.toBool = true := by
    decide +kernel
  rw [hobey, hsteps] at hwords
  rw [hobey, hprobe] at hgets
  cases result with
  | error fault => cases hgets
  | ok k =>
    exact ⟨r', j', steps, hobey, hsteps, hwords, hunconfigured (.inl rfl), k, r'', j'', more,
      hprobe, hreaches k rfl⟩

end Mooring.Route
