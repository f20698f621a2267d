import Mooring.Address.Gateway
import Mooring.Address.Url
import Mooring.Settings

/-! Routes: the ways of reaching a daemon. A route is probed by opening a client, pinging the daemon
and finding the address of its host; a probe that fails leaves no client open, and after one that
succeeds the route holds the client. -/

namespace Mooring

inductive RouteKind where
  | environment
  | unixSocket
  | namedPipe
  | dockerMachine
  deriving DecidableEq, Repr

def RouteKind.label : RouteKind → String
  | .environment => "environment"
  | .unixSocket => "unix_socket"
  | .namedPipe => "npipe"
  | .dockerMachine => "docker_machine"

/-- The kind under a label. -/
def RouteKind.ofLabel? (label : String) : Option RouteKind :=
  [RouteKind.environment, .unixSocket, .namedPipe, .dockerMachine].find? (·.label == label)

/-- A class of routes. -/
inductive RouteFamily where
  | every
  | known (kind : RouteKind)
  | supplied
  deriving DecidableEq, Repr

/-- Which way a route takes: one of the four known ones, or one that the caller supplies. -/
inductive Way where
  | known (kind : RouteKind)
  | supplied (name description : String) (kind : RouteKind)
  deriving DecidableEq, Repr

structure Route where
  way : Way
  settings : Settings
  /-- The open client of a probed route. -/
  held : Option Client := none
  /-- The address of the daemon's host; it outlives the client. -/
  host : Option String := none
  /-- The virtual machine in use, once it is known. -/
  machine : Option String := none
  deriving DecidableEq, Repr

namespace Route

open Mooring.Action

variable {σ : Type}

def kind (r : Route) : RouteKind :=
  match r.way with
  | .known kind => kind
  | .supplied _ _ kind => kind

/-- Routes with a higher priority are tried first. -/
def priority (r : Route) : Int :=
  match r.way with
  | .known .environment => 100
  | .known .unixSocket => 80
  | .known .namedPipe => 60
  | .known .dockerMachine => 10
  | .supplied .. => 50

/-- The name of a route's class. -/
def className (r : Route) : String :=
  match r.way with
  | .known .environment => "EnvironmentStrategy"
  | .known .unixSocket => "UnixSocketStrategy"
  | .known .namedPipe => "NpipeStrategy"
  | .known .dockerMachine => "DockerMachineStrategy"
  | .supplied .. => "Candidate"

def belongsTo (r : Route) : RouteFamily → Bool
  | .every => true
  | .known kind => r.way == .known kind
  | .supplied =>
    match r.way with
    | .known _ => false
    | .supplied .. => true

def isProbed (r : Route) : Bool := r.held.isSome

/-- A route in diagnostics. -/
def summary (r : Route) : String :=
  "<" ++ r.className ++ " kind=" ++ r.kind.label ++ " priority=" ++ Number.intText r.priority ++ ">"

/-- The configured daemon address, or else the one in the environment, or else nothing. -/
def daemonAddress (settings : Settings) (environment : Record String) : String :=
  match settings.dockerHost with
  | some host => if host = "" then (environment.get? "DOCKER_HOST").getD "" else host
  | none => (environment.get? "DOCKER_HOST").getD ""

def pipeUrl : String := "npipe:////./pipe/docker_engine"

def describeIn (environment : Record String) (r : Route) : String :=
  match r.way with
  | .known .environment =>
    let address := daemonAddress r.settings environment
    "Environment variables (DOCKER_HOST=" ++ (if address = "" then "unset" else address) ++ ")"
  | .known .unixSocket => "Local Unix socket (" ++ r.settings.socketPath ++ ")"
  | .known .namedPipe => "Windows named pipe (" ++ pipeUrl ++ ")"
  | .known .dockerMachine =>
    let name := r.settings.machineName.getD ""
    "docker-machine (" ++ (if name = "" then "default machine" else name) ++ ")"
  | .supplied _ description _ => description

/-- A sentence about the route, as diagnostics show it. -/
def describe (r : Route) : Action σ String := return r.describeIn (← read).environment

/-! ### Virtual machines -/

def machineProgram : String := "docker-machine"

/-- The output of a command about virtual machines, without blanks around it. -/
def runMachine (settings : Settings) (arguments : List String) : Action σ String := do
  let command := machineProgram :: arguments
  let result ← call (.runCommand command settings.probeTimeout)
  if result.code ≠ 0 then
    let complaint := String.ofList (Text.trim result.complaint.toList)
    fail (.of (.machine (.commandFailed command complaint)))
  else return String.ofList (Text.trim result.output.toList)

/-- The first machine in a listing, one to a line. -/
def firstListed? (listing : List Char) : Option String :=
  ((Text.lines listing).map Text.trim).find? (fun line => !line.isEmpty) |>.map String.ofList

/-- The machine in use: the configured one, or else the first that is listed. It is listed once. -/
def machineName : Action Route String := do
  let r ← get
  match r.machine with
  | some name => return name
  | none =>
    let name ← match r.settings.machineName.filter (· ≠ "") with
      | some name => pure name
      | none =>
        match firstListed? (← runMachine r.settings ["ls", "-q"]).toList with
        | some name => pure name
        | none => fail (.of (.machine .noMachines))
    modify (fun r => { r with machine := some name })
    return name

/-- A file in a directory. -/
def inDirectory (directory file : String) : String :=
  if directory = "" ∨ directory.toList.getLast? = some '/' then directory ++ file
  else directory ++ "/" ++ file

/-- The certificates of the machine in use. -/
def machineTls : Action Route Tls := do
  let name ← machineName
  let format := "\x7b\x7b.HostOptions.AuthOptions.StorePath\x7d\x7d"
  let store ← runMachine (← get).settings ["inspect", "--format", format, name]
  let tls : Tls :=
    { certificate := inDirectory store "cert.pem"
      key := inDirectory store "key.pem"
      authority := inDirectory store "ca.pem" }
  call (.loadTls tls)
  return tls

/-! ### Probing -/

/-- The environment for a client: the process's own, under the settings that are made. -/
def clientEnvironment (settings : Settings) (environment : Record String) : Record String :=
  let e := environment.put "DOCKER_HOST" (daemonAddress settings environment)
  let e := if settings.tlsVerify then e.put "DOCKER_TLS_VERIFY" "1" else e
  match settings.certPath with
  | some path => if path = "" then e else e.put "DOCKER_CERT_PATH" path
  | none => e

/-- Opens a client without talking to the daemon yet. -/
def openClient : Action Route Client := do
  let r ← get
  let w ← read
  match r.way with
  | .known .environment =>
    call (.clientFor (clientEnvironment r.settings w.environment) r.settings.probeTimeout)
  | .known .unixSocket =>
    call (.clientAt ("unix://" ++ r.settings.socketPath) r.settings.probeTimeout none)
  | .known .namedPipe => call (.clientAt pipeUrl r.settings.probeTimeout none)
  | .known .dockerMachine => do
    let name ← machineName
    let url ← runMachine r.settings ["url", name]
    log .debug "Using docker-machine" [("machine", .text name), ("url", .text url)]
    let tls ← machineTls
    call (.clientAt url r.settings.probeTimeout (some tls))
  | .supplied name _ _ => call (.route name .createClient)

/-- There inside a container, whose siblings are reached through the gateway. -/
def containerMark : String := "/.dockerenv"

/-- The host of a daemon's URL; this one for local schemes and where none is named. -/
def urlHost (address : List Char) : Except Address.UrlFault String := do
  let url ← Address.readUrl address
  let isLocal := url.scheme == "unix".toList || url.scheme == "npipe".toList
  if isLocal || url.host.isEmpty then return "localhost" else return String.ofList url.host

/-- The address of the host that runs the daemon's containers. -/
def findHost : Action Route (Option String) := do
  let r ← get
  let w ← read
  match r.way with
  | .known .environment =>
    let address := daemonAddress r.settings w.environment
    let host ← ofExcept ((urlHost address.toList).mapError .url)
    return some host
  | .known .unixSocket =>
    if w.fileExists containerMark then
      match ← Address.defaultGateway Address.routingTable with
      | some gateway => return some gateway
      | none => return some "localhost"
    else return some "localhost"
  | .known .namedPipe => return some "localhost"
  | .known .dockerMachine => do
    let name ← machineName
    let address ← runMachine r.settings ["ip", name]
    return some address
  | .supplied name _ _ => call (.route name .hostAddress)

/-- Whether the route makes sense on this machine at all. -/
def isApplicable : Action Route Bool := do
  let r ← get
  let w ← read
  match r.way with
  | .known .environment => return daemonAddress r.settings w.environment ≠ ""
  | .known .unixSocket => return w.platform ≠ "win32" && w.fileExists r.settings.socketPath
  | .known .namedPipe => return w.platform == "win32"
  | .known .dockerMachine => call (.findExecutable machineProgram)
  | .supplied name _ _ => call (.route name .isApplicable)

/-- Closes a client; a failure to do so is only logged. -/
def closeQuietly (client : Client) : Action σ Unit := do
  match ← attempt (onClient client .close) with
  | .ok () => return
  | .error fault =>
    if fault.problem.isException then
      log .debug "Error closing Docker client" [("error", .text fault.message)]
    else fail fault

/-- Has the daemon answer a ping, and finds the address of its host. -/
def greet (client : Client) : Action Route (Option String) := do
  onClient client .ping
  findHost

/-- Opens a client and checks that the daemon answers. -/
def probe : Action Route Client := do
  let client ← openClient
  match ← attempt (greet client) with
  | .ok host =>
    let r ← get
    tell (.client client (.setTimeout r.settings.timeout))
    modify (fun r => { r with held := some client, host })
    return client
  | .error fault =>
    if fault.problem.isException then closeQuietly client
    fail fault

/-- The open client of a probed route. -/
def client (r : Route) : Action σ Client := do
  match r.held with
  | some client => return client
  | none =>
    failWith (.notYetResolved ("Client of strategy " ++ Value.quote (← r.describe)))

/-- The host address that the probe found. -/
def hostAddress (r : Route) : Action σ String := do
  match r.host with
  | some host => return host
  | none =>
    failWith (.notYetResolved ("Host address of strategy " ++ Value.quote (← r.describe)))

/-- Closes the client, if one is open. -/
def close : Action Route Unit := do
  match (← get).held with
  | none => return
  | some client =>
    closeQuietly client
    modify (fun r => { r with held := none })

end Route

end Mooring
