import Mooring.CommandLine
import Mooring.Proofs.CommandLine.Sheet
import Mooring.Proofs.Connection.Attempt

/-! Results of requests. A request prepares what it shows and then shows it: the output of a
command, or a table that holds texts from elsewhere, about a daemon or about a session. -/

namespace Mooring

open Mooring.Action

variable {w : World} {c c' : Connection} {j j' : Journal}

/-! ### What a connection answers -/

namespace Connection

theorem daemon_eq_ok {known : Daemon} (h : daemon w c j = (.ok known, c', j')) :
    c'.metadata = some known := by
  obtain ⟨k, c₁, j₁, -, hpart⟩ := exists_of_run_bind_ok h
  rw [run_bind_ok run_get] at hpart
  cases hdaemon : c₁.metadata with
  | none =>
    rw [hdaemon] at hpart
    cases hpart
  | some known' =>
    rw [hdaemon] at hpart
    cases hpart
    exact hdaemon

theorem routeFor_eq_ok {what : String} {route : Route}
    (h : routeFor what w c j = (.ok route, c', j')) :
    c.chosen = some route ∧ c' = c ∧ j' = j := by
  rw [routeFor, run_bind_ok run_get] at h
  cases hroute : c.chosen with
  | none =>
    rw [hroute] at h
    cases h
  | some route' =>
    rw [hroute] at h
    cases h
    exact ⟨rfl, rfl, rfl⟩

theorem hostAddress_eq_ok {route : Route} (hroute : c.chosen = some route) {host : String}
    (h : hostAddress w c j = (.ok host, c', j')) :
    route.host = some host ∧ c' = c ∧ j' = j := by
  have hchosen : routeFor "Docker host address" w c j = (.ok route, c, j) := by
    rw [routeFor, run_bind_ok run_get, hroute]
    rfl
  rw [hostAddress, run_bind_ok hchosen] at h
  exact Route.hostAddress_eq_ok h

end Connection

namespace CommandLine

open Connection

variable {request : Request} {code : Value}

/-! ### Texts and tables in parts -/

/-- The parts of what a route is described by. -/
def describeParts (environment : Record String) (r : Route) : List Part :=
  match r.way with
  | .known .environment =>
    let address := Route.daemonAddress r.settings environment
    [.own "Environment variables (DOCKER_HOST=",
      if address = "" then .own "unset" else .foreign address, .own ")"]
  | .known .unixSocket => [.own "Local Unix socket (", .foreign r.settings.socketPath, .own ")"]
  | .known .namedPipe => [.own "Windows named pipe (", .own Route.pipeUrl, .own ")"]
  | .known .dockerMachine =>
    let name := r.settings.machineName.getD ""
    [.own "docker-machine (", if name = "" then .own "default machine" else .foreign name, .own ")"]
  | .supplied _ description _ => [.foreign description]

theorem compose_describeParts (environment : Record String) (r : Route) :
    compose id (describeParts environment r) = r.describeIn environment := by
  unfold describeParts Route.describeIn
  cases r.way with
  | supplied name description kind => simp
  | known kind =>
    cases kind with
    | environment | dockerMachine =>
      dsimp only
      split <;> simp [String.append_assoc]
    | unixSocket | namedPipe => simp [String.append_assoc]

/-- The parts of an answer. -/
def answerParts : Value → List Part
  | .text text => [.foreign text]
  | _ => []

/-- The parts of an answer that may be missing. -/
def driverParts (driver : Value) : List Part :=
  if driver.isSomething then answerParts driver else [.own "-"]

theorem compose_answerParts {answer : Value} {text : String} (h : answer = .text text) :
    compose id (answerParts answer) = text := by
  subst h
  simp [answerParts]

theorem compose_driverParts {driver : Value} {text : String}
    (h : driver.orElse (.text "-") = .text text) : compose id (driverParts driver) = text := by
  unfold Value.orElse at h
  unfold driverParts
  split
  · next hsome =>
    rw [if_pos hsome] at h
    exact compose_answerParts h
  · next hnone =>
    rw [if_neg hnone] at h
    cases h
    simp

/-- The table about a daemon. -/
def infoSheet (w : World) (route : Route) (host : String) (daemon : Daemon) : Sheet where
  title := [.own "Docker environment"]
  headers := ["Property", "Value"]
  rows :=
    [[[.own "Strategy"], describeParts w.environment route],
     [[.own "Host address"], [.foreign host]],
     [[.own "Server version"], answerParts daemon.serverVersion],
     [[.own "API version"], answerParts daemon.apiVersion],
     [[.own "Operating system"], answerParts daemon.operatingSystem],
     [[.own "Total memory"], [.own (Number.intText daemon.memoryMb ++ " MB")]],
     [[.own "Storage driver"], driverParts daemon.storageDriver],
     [[.own "Execution driver"], driverParts daemon.executionDriver],
     [[.own "Session"], [.foreign w.session]]]

/-- The table about a session that has been pruned. -/
def pruneSheet (session : String) (count : SweepCount) : Sheet where
  title := [.own "Pruned session ", .foreign session]
  headers := ["Resource", "Count"]
  rows := count.entries.map (fun (name, n) => [[.own name], [.own (Number.natText n)]])

/-! ### Rows and tables -/

theorem cell_eq_ok {value : Value} {text : String} (h : cell value = .ok text) :
    value = .text text := by
  unfold cell at h
  split at h
  · cases h
    rfl
  · cases h

/-- A row is made of a text, and changes nothing. -/
theorem exists_of_row_ok {σ α : Type} {name : String} {value : Value}
    {next : List String → Action σ α} {s s' : σ} {a : α}
    (h : (row name value >>= next) w s j = (.ok a, s', j')) :
    ∃ text, value = .text text ∧ next [name, text] w s j = (.ok a, s', j') := by
  obtain ⟨cells, s₁, j₁, hrow, hnext⟩ := exists_of_run_bind_ok h
  rw [row, run_bind, run_ofExcept] at hrow
  cases hcell : cell value with
  | error misfit =>
    rw [hcell] at hrow
    cases hrow
  | ok text =>
    rw [hcell] at hrow
    cases hrow
    exact ⟨text, cell_eq_ok hcell, hnext⟩

/-- The tables in which foreign texts are shown. -/
inductive SheetOf (w : World) (c : Connection) : Request → Sheet → Prop
  | info {route : Route} {host : String} {daemon : Daemon} (hroute : c.chosen = some route)
    (hhost : route.host = some host) (hdaemon : c.metadata = some daemon) :
    SheetOf w c .info (infoSheet w route host daemon)
  | prune (session : String) (count : SweepCount) :
    SheetOf w c (.prune session) (pruneSheet session count)

theorem shown_infoSheet {route : Route} {host server api system storage execution : String}
    {daemon : Daemon} (hserver : daemon.serverVersion = .text server)
    (hapi : daemon.apiVersion = .text api) (hsystem : daemon.operatingSystem = .text system)
    (hstorage : daemon.storageDriver.orElse (.text "-") = .text storage)
    (hexecution : daemon.executionDriver.orElse (.text "-") = .text execution) :
    (infoSheet w route host daemon).shown id =
      .table "Docker environment" ["Property", "Value"]
        [["Strategy", route.describeIn w.environment], ["Host address", host],
         ["Server version", server], ["API version", api], ["Operating system", system],
         ["Total memory", Number.intText daemon.memoryMb ++ " MB"], ["Storage driver", storage],
         ["Execution driver", execution], ["Session", w.session]] := by
  simp [infoSheet, Sheet.shown, compose_describeParts, compose_answerParts hserver,
    compose_answerParts hapi, compose_answerParts hsystem, compose_driverParts hstorage,
    compose_driverParts hexecution]

theorem SheetOf.of_prune {session : String} {sheet : Sheet}
    (h : SheetOf w c (.prune session) sheet) : ∃ count, sheet = pruneSheet session count := by
  cases h
  exact ⟨_, rfl⟩

theorem shown_pruneSheet (session : String) (count : SweepCount) :
    (pruneSheet session count).shown id =
      .table ("Pruned session " ++ session) ["Resource", "Count"]
        (count.entries.map (fun (name, n) => [name, Number.natText n])) := by
  simp [pruneSheet, Sheet.shown]

/-- Of a table about a session, only the session is foreign. -/
theorem holds_pruneSheet {session text : String} {count : SweepCount} :
    (pruneSheet session count).Holds text ↔ text = session := by
  constructor
  · rintro ⟨parts, hparts, htext⟩
    rcases List.mem_cons.mp hparts with rfl | hparts
    · simpa [pruneSheet] using htext
    · obtain ⟨row, hrow, hparts⟩ := List.mem_flatten.mp hparts
      obtain ⟨⟨name, n⟩, -, rfl⟩ := List.mem_map.mp hrow
      simp only [List.mem_cons, List.not_mem_nil, or_false] at hparts
      rcases hparts with rfl | rfl <;> simp at htext
  · rintro rfl
    exact ⟨_, List.mem_cons_self .., by simp [pruneSheet]⟩

/-! ### Preparing a result -/

/-- All that a request does before it shows its result: what it is going to show, and the exit code
that it is going to end in. -/
def prepare : Request → Action Connection (Shown × Value)
  | .info => do
    let _ ← Connection.client
    let daemon ← Connection.daemon
    let route ← Connection.route
    let strategy ← row "Strategy" (.text (← route.describe))
    let host ← row "Host address" (.text (← Connection.hostAddress))
    let server ← row "Server version" daemon.serverVersion
    let api ← row "API version" daemon.apiVersion
    let system ← row "Operating system" daemon.operatingSystem
    let memory ← row "Total memory" (.text (Number.intText daemon.memoryMb ++ " MB"))
    let storage ← row "Storage driver" (daemon.storageDriver.orElse (.text "-"))
    let execution ← row "Execution driver" (daemon.executionDriver.orElse (.text "-"))
    let session ← row "Session" (.text (← read).session)
    return (.table "Docker environment" ["Property", "Value"]
      [strategy, host, server, api, system, memory, storage, execution, session], .int 0)
  | .run command => do
    let result ← Connection.runInside
      (modify (fun spec => { spec with command := .ofTexts command })) collectOutput
    return (.plain result.2, result.1)
  | .prune session => do
    let client ← Connection.client
    let count ← Sweep.run client (Session.labels session)
    return (.table ("Pruned session " ++ session) ["Resource", "Count"]
      (count.entries.map (fun (name, n) => [name, Number.natText n])),
      .int (if count.failed = 0 then 0 else 1))

theorem carryOut_eq (request : Request) :
    carryOut request = (do let result ← prepare request; print result.1; return result.2) := by
  cases request <;> simp [carryOut, info, run, prune, prepare]

/-- What a request may show for its result. -/
inductive ResultOf (w : World) (c : Connection) : Request → Shown → Prop
  | output (command : List String) (output : String) :
    ResultOf w c (.run command) (.plain output)
  | sheet {request : Request} {sheet : Sheet} (h : SheetOf w c request sheet) :
    ResultOf w c request (sheet.shown id)

theorem ResultOf.of_prune {session : String} {what : Shown}
    (h : ResultOf w c (.prune session) what) :
    ∃ sheet, SheetOf w c (.prune session) sheet ∧ what = sheet.shown id := by
  cases h with
  | sheet hsheet => exact ⟨_, hsheet, rfl⟩

/-- Whether something for the console is a result: anything but a styled line. -/
def isResult : Shown → Bool
  | .styled _ => false
  | _ => true

theorem ResultOf.isResult {what : Shown} (h : ResultOf w c request what) :
    isResult what = true := by
  cases h <;> rfl

theorem sheetOf_of_prepare_info {what : Shown}
    (h : prepare .info w c j = (.ok (what, code), c', j')) :
    ∃ sheet, SheetOf w c' .info sheet ∧ what = sheet.shown id := by
  rw [prepare] at h
  obtain ⟨k, c₁, j₁, -, h₁⟩ := exists_of_run_bind_ok h
  obtain ⟨daemon, c₂, j₂, hdaemon, h₂⟩ := exists_of_run_bind_ok h₁
  have hmetadata := daemon_eq_ok hdaemon
  obtain ⟨route, c₃, j₃, hroute, h₃⟩ := exists_of_run_bind_ok h₂
  obtain ⟨hchosen, rfl, rfl⟩ := routeFor_eq_ok hroute
  rw [run_bind_ok (a := route.describeIn w.environment) rfl] at h₃
  obtain ⟨_, ⟨⟩, h₄⟩ := exists_of_row_ok h₃
  obtain ⟨host, c₅, j₅, haddress, h₅⟩ := exists_of_run_bind_ok h₄
  obtain ⟨hhost, rfl, rfl⟩ := hostAddress_eq_ok hchosen haddress
  obtain ⟨_, ⟨⟩, h₆⟩ := exists_of_row_ok h₅
  obtain ⟨server, hserver, h₇⟩ := exists_of_row_ok h₆
  obtain ⟨api, hapi, h₈⟩ := exists_of_row_ok h₇
  obtain ⟨system, hsystem, h₉⟩ := exists_of_row_ok h₈
  obtain ⟨_, ⟨⟩, h₁₀⟩ := exists_of_row_ok h₉
  obtain ⟨storage, hstorage, h₁₁⟩ := exists_of_row_ok h₁₀
  obtain ⟨execution, hexecution, h₁₂⟩ := exists_of_row_ok h₁₁
  rw [run_bind_ok run_read] at h₁₂
  obtain ⟨_, ⟨⟩, h₁₃⟩ := exists_of_row_ok h₁₂
  cases h₁₃
  refine ⟨_, .info hchosen hhost hmetadata, ?_⟩
  rw [shown_infoSheet hserver hapi hsystem hstorage hexecution]

theorem resultOf_of_prepare {what : Shown}
    (h : prepare request w c j = (.ok (what, code), c', j')) : ResultOf w c' request what := by
  cases request with
  | info =>
    obtain ⟨sheet, hsheet, rfl⟩ := sheetOf_of_prepare_info h
    exact .sheet hsheet
  | run command =>
    obtain ⟨⟨exit, output⟩, c₁, j₁, -, hlast⟩ := exists_of_run_bind_ok h
    cases hlast
    exact .output command output
  | prune session =>
    obtain ⟨k, c₁, j₁, -, hsweep⟩ := exists_of_run_bind_ok h
    obtain ⟨count, c₂, j₂, -, hlast⟩ := exists_of_run_bind_ok hsweep
    cases hlast
    rw [← shown_pruneSheet]
    exact .sheet (.prune session count)

end CommandLine

end Mooring
