import Mooring.Deadline
import Mooring.Helper.Container
import Mooring.Settings
import Mooring.Text.Percent
import Mooring.Value.Read

/-! The reaper: a container on the daemon that holds a connection to this process and removes the
session's resources once the connection drops. It counts as started only after it has
acknowledged the session; a start that fails later than the container's own start takes the
container down again. -/

namespace Mooring

structure Reaper where
  client : Client
  settings : Settings
  /-- Where the daemon's published ports are reached. -/
  host : String
  /-- Seconds to wait for the port, and again for the acknowledgement. -/
  patience : Binary64
  container : Option ResourceId := none
  socket : Option Socket := none
  deriving DecidableEq, Repr

namespace Reaper

open Mooring.Action

variable {σ : Type}

def port : String := "8080/tcp"

def acknowledgement : List UInt8 := Text.encode "ACK".toList

/-- The request for the reaper's container. -/
def request (settings : Settings) (session : String) : Record Value :=
  [("image", .text settings.reaperImage),
   ("detach", .bool true),
   ("auto_remove", .bool true),
   ("name", .text ("dockerlink-reaper-" ++ session)),
   ("labels", .object (Session.labels session)),
   ("ports", .object [(port, .null)]),
   ("privileged", .bool settings.reaperPrivileged),
   ("volumes", .object [(settings.socketPath,
     .object [("bind", .text "/var/run/docker.sock"), ("mode", .text "rw")])])]

/-- The line that tells the reaper which resources are the session's. -/
def filterLine (session : String) : String :=
  let clause (filter : String) : List Char :=
    "label=".toList ++ Text.percentEncode ['=', '.'] filter.toList
  let clauses := (Session.labelFilters (Session.labels session)).map clause
  String.ofList (Text.joinWith ['&'] clauses ++ ['\n'])

/-! ### The published port -/

/-- The first item of a list. -/
def firstItem : Value → Except Misfit Value
  | .list (item :: _) => .ok item
  | .list [] => .error (.missingKey (.int 0))
  | .object _ => .error (.missingKey (.int 0))
  | .text s => .ok (.text (String.ofList (s.toList.take 1)))
  | v => .error (.noItems v.typeName)

/-- The entry of a table that has to be there. -/
def entryOf (key : String) : Value → Except Misfit Value
  | .object entries =>
    match Record.get? entries key with
    | some value => .ok value
    | none => .error (.missingKey (.text key))
  | .text _ => .error (.noNamedItems "str")
  | .list _ => .error (.noNamedItems "list")
  | v => .error (.noItems v.typeName)

/-- The bindings of the reaper's port among the ports of a container. -/
def bindings : Value → Except Misfit Value
  | .object entries => .ok (.entry entries port)
  | v => if v.isSomething then .error (.noMember v.typeName "get") else .ok .null

/-- The host's port that leads to the reaper, once it is published. -/
def publishedPort? (ports : Value) : Except Problem (Option Int) := do
  let bound ← (bindings ports).mapError .misfit
  if !bound.isSomething then return none
  let binding ← (firstItem bound).mapError .misfit
  let hostPort ← (entryOf "HostPort" binding).mapError .misfit
  let n ← hostPort.toInt
  return some n

/-- Looks at the container's ports afresh. -/
def lookForPort (client : Client) (id : ResourceId) : Action σ (Option Int) := do
  onClient client (.reloadContainer id)
  let ports ← onClient client (.containerPorts id)
  ofExcept (publishedPort? ports)

theorem forward_lookForPort (client : Client) (id : ResourceId) :
    Forward (lookForPort client id : Action σ (Option Int)) :=
  .bind (.call _) (fun _ => .bind (.call _) (fun _ => .ofExcept _))

/-- Looks for the port every tenth of a second, at least once, until the deadline. -/
def waitForPort (client : Client) (id : ResourceId) (deadline : Nat) (w : World) (s : σ)
    (j : Journal) : Except Fault Int × σ × Journal :=
  match _looked : lookForPort client id w s j with
  | (.error fault, s, j) => (.error fault, s, j)
  | (.ok (some port), s, j) => (.ok port, s, j)
  | (.ok none, seen, later) =>
    if _late : deadline ≤ later.clock then
      failWith (.resourceManager "Reaper container did not publish its port in time") w seen later
    else
      match _slept : sleep 100 w seen later with
      | (.error fault, s, j) => (.error fault, s, j)
      | (.ok (), rested, now) => waitForPort client id deadline w rested now
  termination_by deadline - j.clock
  decreasing_by
    have h : j.clock ≤ later.clock := by
      simpa only [_looked] using forward_lookForPort client id w s j
    have h' := clock_lt_of_sleep (by decide) _slept
    omega

/-! ### The acknowledgement -/

/-- How one attempt to register ended: acknowledged on a socket, or not, with what went wrong
told in the last sentence of all. -/
inductive Registration where
  | acknowledged (socket : Socket)
  | refused (reason : String)
  deriving DecidableEq, Repr

/-- Sends the session's filter over a socket and reads the answer. -/
def introduce (socket : Socket) (line : String) : Action σ (Option String) := do
  call (.socket (.send socket line))
  let answer ← call (.socket (.receive socket 16))
  if Text.trimBytes answer = acknowledgement then
    call (.socket (.clearTimeout socket))
    return none
  else
    return some ("Unexpected reaper response: " ++ String.ofList (Text.quotedBytes answer))

/-- One attempt to register. A socket that led to no acknowledgement is closed; trouble that is not
the network's ends the attempts. -/
def registerOnce (host : String) (port : Int) (line : String) : Action σ Registration := do
  match ← attempt (call (.socket (.connect host port))) with
  | .error fault =>
    if fault.problem.isOsTrouble then return .refused fault.message else fail fault
  | .ok socket =>
    match ← attempt (introduce socket line) with
    | .ok none => return .acknowledged socket
    | .ok (some reason) =>
      call (.socket (.close socket))
      return .refused reason
    | .error fault =>
      if fault.problem.isOsTrouble then
        call (.socket (.close socket))
        return .refused fault.message
      else fail fault

theorem forward_introduce (socket : Socket) (line : String) :
    Forward (introduce socket line : Action σ (Option String)) :=
  .bind (.call _) (fun _ => .bind (.call _) (fun _ => by
    split
    · exact .bind (.call _) (fun _ => .pure _)
    · exact .pure _))

theorem forward_registerOnce (host : String) (port : Int) (line : String) :
    Forward (registerOnce host port line : Action σ Registration) := by
  refine .bind (.attempt (.call _)) (fun connected => ?_)
  split
  · split
    · exact .pure _
    · exact .fail _
  · refine .bind (.attempt (forward_introduce _ _)) (fun introduced => ?_)
    split
    · exact .pure _
    · exact .bind (.call _) (fun _ => .pure _)
    · split
      · exact .bind (.call _) (fun _ => .pure _)
      · exact .fail _

/-- The failure of all attempts to register, with what went wrong in the last one. -/
def notRegistered (host : String) (port : Int) (reason : Option String) : Failure :=
  .resourceManager ("Could not register with reaper at " ++ host ++ ":" ++ Number.intText port ++
    ": " ++ reason.getD "None")

/-- Tries to register every half second until the deadline. -/
def register (host : String) (port : Int) (line : String) (deadline : Nat)
    (reason : Option String) (w : World) (s : σ) (j : Journal) :
    Except Fault Socket × σ × Journal :=
  if _late : deadline ≤ j.clock then failWith (notRegistered host port reason) w s j
  else
    match _tried : registerOnce host port line w s j with
    | (.error fault, s, j) => (.error fault, s, j)
    | (.ok (.acknowledged socket), s, j) => (.ok socket, s, j)
    | (.ok (.refused reason), seen, later) =>
      match _slept : sleep 500 w seen later with
      | (.error fault, s, j) => (.error fault, s, j)
      | (.ok (), rested, now) =>
        register host port line deadline (some reason) w rested now
  termination_by deadline - j.clock
  decreasing_by
    have h : j.clock ≤ later.clock := by
      simpa only [_tried] using forward_registerOnce host port line w s j
    have h' := clock_lt_of_sleep (by decide) _slept
    omega

/-! ### Start and end -/

/-- Takes the container down; the daemon's refusal to do so is only logged. -/
def kill : Action Reaper Unit := do
  let r ← get
  match r.container with
  | none => return
  | some id =>
    match ← attempt (onClient r.client (.killContainer id)) with
    | .ok () => return
    | .error fault =>
      if fault.problem.isDaemonTrouble then
        log .warning "Failed to kill reaper container" [("error", .text fault.message)]
      else fail fault

/-- Finds the container's port and registers the session there. -/
def connect (id : ResourceId) : Action Reaper Int := do
  let r ← get
  let port ← waitForPort r.client id (Deadline.after (← clock) r.patience)
  let line := filterLine (← read).session
  let socket ← register r.host port line (Deadline.after (← clock) r.patience) none
  modify (fun r => { r with socket := some socket })
  return port

/-- Starts the container and registers with it, unless the settings do without. -/
def start : Action Reaper Unit := do
  let r ← get
  if r.settings.reaperDisabled then
    log .warning
      "Reaper is disabled; resources of this session will not be removed automatically"
    return
  let image := r.settings.reaperImage
  let request := Reaper.request r.settings (← read).session
  match ← attempt (do
      ensureImage r.client image
      onClient r.client (.runContainer request)) with
  | .error fault =>
    if fault.problem.isDaemonTrouble then
      fail (.because (.resourceManager
        ("Failed to start reaper container from " ++ image ++ ": " ++ fault.message)) fault)
    else fail fault
  | .ok id =>
    modify (fun r => { r with container := some id })
    match ← attempt (connect id) with
    | .ok port =>
      log .info "Reaper started"
        [("container_id", .text (shortId id)), ("host", .text r.host), ("port", .int port)]
    | .error fault =>
      if fault.problem.isException then kill
      fail fault

/-- Drops the connection; the reaper then removes the session's resources. -/
def close : Action Reaper Unit := do
  match (← get).socket with
  | none => return
  | some socket =>
    call (.socket (.close socket))
    modify (fun r => { r with socket := none })

end Reaper

end Mooring
