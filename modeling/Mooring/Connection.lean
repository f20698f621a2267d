import Mooring.Agent
import Mooring.DiskSpace
import Mooring.Route.Choice
import Mooring.Version

/-! The connection of this process to a daemon. It is made on first use: a route is chosen, the
daemon is asked about itself and checked, and an agent is selected. What that comes to, link or
failure, is kept and never tried again; only an interrupted attempt leaves the matter open. -/

namespace Mooring

/-- What an attempt to connect finds behind a route when all of it succeeds. -/
structure Link where
  daemon : Daemon
  agent : Agent
  deriving Repr

/-- How far a connection has come. -/
inductive Stage where
  | unresolved
  | resolving
  | resolved
  | failed
  deriving DecidableEq, Repr

def Stage.label : Stage → String
  | .unresolved => "unresolved"
  | .resolving => "resolving"
  | .resolved => "resolved"
  | .failed => "failed"

structure Connection where
  settings : Settings
  /-- The routes to try; without them each attempt tries the known ways afresh. -/
  candidates : Option (List Route)
  stage : Stage := .unresolved
  /-- Whether the connection stands; set once all that it consists of is in place. -/
  initialized : Bool := false
  /-- The fault that the attempt ended in, kept for everyone who asks later. -/
  failure : Option Fault := none
  chosen : Option Route := none
  metadata : Option Daemon := none
  agent : Option Agent := none
  deriving Repr

namespace Connection

open Mooring.Action

variable {σ α : Type}

/-- A connection that is still to be made. -/
def prepare (settings : Settings) (candidates : Option (List Route)) : Action σ Connection := do
  log .debug "DockerClientFactory initialized (client will be resolved on first use)"
  return { settings, candidates }

/-- The connection that everyone in a process shares; it is prepared when it is first asked for. -/
def shared (settings : Settings) : Action (Option Connection) Connection := do
  match ← get with
  | some c => return c
  | none =>
    let c ← prepare settings none
    set (some c)
    return c

/-! ### Making the connection -/

/-- Refuses a daemon that is older than the settings allow. -/
def checkVersion (minimum : String) : Value → Action σ Unit
  | .text version => do
    let fields : Record Value := [("version", .text version), ("minimum", .text minimum)]
    if ← ofExcept ((isAtLeast version minimum).mapError .numeral) then
      log .info "Docker version is supported" fields
    else
      log .error "Docker version is too old" fields
      failWith (.unsupportedVersion version minimum)
  | v => fail (.of (.misfit (.noMember v.typeName "strip")))

/-- Checks a daemon that has told about itself, and selects its agent. -/
def appraise (settings : Settings) (client : Client) (host : String) (info version : Value) :
    Action σ Link := do
  let daemon ← ofExcept (Daemon.read info version)
  log .info "Connected to docker"
    [("server_version", daemon.serverVersion), ("api_version", daemon.apiVersion),
     ("operating_system", daemon.operatingSystem), ("total_memory_mb", .int daemon.memoryMb)]
  log .info "Checking the system..."
  checkVersion settings.minimumVersion daemon.serverVersion
  unless settings.checksDisabled do
    let _ ← DiskUsage.check client settings.tinyImage settings.minimumFreeDiskMb
  let agent ← ofExcept (Agent.select daemon client host settings)
  return { daemon, agent }

/-- Asks the daemon behind a route about itself, and goes by its answers. -/
def inspect (settings : Settings) (route : Route) : Action σ Link := do
  let client ← route.client
  let host ← route.hostAddress
  log .info "Docker host IP address is" [("host_address", .text host)]
  let info ← onClient client .info
  let version ← onClient client .version
  appraise settings client host info version

def setStage (stage : Stage) : Action Connection Unit := modify (fun c => { c with stage })

/-- Ends an attempt in a fault, and keeps it unless it is an interrupt. -/
def giveUp (fault : Fault) : Action Connection α := do
  if fault.problem.isException then
    modify (fun c => { c with failure := some fault, stage := .failed })
  fail fault

/-- Puts what an attempt came to in its place. -/
def publish (route : Route) (link : Link) : Action Connection Unit :=
  modify (fun c => { c with
    chosen := some route
    metadata := some link.daemon
    agent := some link.agent
    stage := .resolved
    initialized := true })

/-- Makes the connection over a route. A route that was chosen in vain is closed. -/
def resolveOver (settings : Settings) (route : Route) : Action Connection Unit := do
  match ← attempt (inspect settings route) with
  | .ok link => publish route link
  | .error fault =>
    if fault.problem.isException then
      let (closed, _) ← runOn route Route.close
      ofResult closed
    giveUp fault

/-- Makes the connection. -/
def resolve : Action Connection Unit := do
  setStage .resolving
  let c ← get
  let (chosen, tried) ← Route.choose (c.candidates.getD (Route.discover c.settings))
  modify (fun c => { c with candidates := c.candidates.map (fun _ => tried) })
  match chosen with
  | .error fault => giveUp fault
  | .ok route => resolveOver c.settings route

/-- Makes the connection unless it stands already; an attempt that failed is not repeated. -/
def ensureResolved : Action Connection Unit := do
  let c ← get
  if c.initialized then return
  match c.failure with
  | some fault => fail fault
  | none => resolve

/-! ### Use -/

/-- A part of the connection; where there is none, it has no members to ask for. -/
def partOf {β : Type} (part : Option β) (member : String) : Action σ β :=
  match part with
  | some b => return b
  | none => fail (.of (.misfit (.noMember "NoneType" member)))

/-- The client of the connection. -/
def client : Action Connection Client := do
  ensureResolved
  let route ← partOf (← get).chosen "client"
  route.client

def daemon : Action Connection Daemon := do
  let _ ← client
  partOf (← get).metadata "server_version"

def apiVersion : Action Connection Value := return (← daemon).apiVersion

def executionDriver : Action Connection Value := return (← daemon).executionDriver

/-- The route in use, if one is. -/
def routeFor (what : String) : Action Connection Route := do
  match (← get).chosen with
  | some route => return route
  | none => failWith (.notYetResolved what)

/-- The address of the host that runs the daemon. -/
def hostAddress : Action Connection String := do
  let route ← routeFor "Docker host address"
  route.hostAddress

def route : Action Connection Route := routeFor "Active connection strategy"

def isUsingKind (kind : RouteKind) : Action Connection Bool := return (← route).kind == kind

def isUsingFamily (family : RouteFamily) : Action Connection Bool :=
  return (← route).belongsTo family

def putAgent (agent : Agent) (c : Connection) : Connection := { c with agent := some agent }

def putRoute (route : Route) (c : Connection) : Connection := { c with chosen := some route }

/-- The agent, started now unless it was started before. -/
def startedAgent : Action Connection Agent := do
  let _ ← client
  let agent ← partOf (← get).agent "initialize"
  within putAgent agent (do Agent.ensureStarted; get)

/-- Carries out work in a helper container made from the small image, after `adjust` has had its
way with the request. -/
def runInside (adjust : Action HelperSpec Unit) (work : Client → ResourceId → Action Connection α) :
    Action Connection α := do
  let client ← client
  let image := (← get).settings.tinyImage
  ensureImage client image
  let (adjusted, spec) ← runOn (HelperSpec.ofImage (← read).session image) adjust
  ofResult adjusted
  withHelper client spec (work client)

def closeAgent : Action Connection Unit := do
  match (← get).agent with
  | some agent => within putAgent agent Agent.close
  | none => return

def closeRoute : Action Connection Unit := do
  match (← get).chosen with
  | some route => within putRoute route Route.close
  | none => return

/-- Closes the agent's handles, then the client. -/
def close : Action Connection Unit := do
  closeAgent
  closeRoute

end Connection

end Mooring
