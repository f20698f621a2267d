import Mooring.Action
import Mooring.Fault.Message
import Mooring.Session
import Mooring.Settings

/-! The sidecar: a process of its own that holds the other end of a pipe to this one and removes
the session's resources once the pipe closes. It serves daemons on which no reaper can run. -/

namespace Mooring

structure Sidecar where
  settings : Settings
  process : Option Process := none
  deriving DecidableEq, Repr

namespace Sidecar

open Mooring.Action

/-- The module that the side process runs. -/
def watchModule : String := "dockerlink.services.reaper.watchdog"

/-- The command that watches over the resources of a session. -/
def command (interpreter session : String) : List String :=
  [interpreter, "-m", watchModule] ++
    (Session.labelFilters (Session.labels session)).flatMap (fun label => ["--label", label])

/-- The side process reaches the daemon that the settings name, if they name one. -/
def sideEnvironment (settings : Settings) (environment : Record String) : Record String :=
  match settings.dockerHost with
  | some host => if host = "" then environment else environment.put "DOCKER_HOST" host
  | none => environment

/-- What keeps the side process alive when this one is stopped from its terminal. -/
def detachment (platform : String) : Detachment :=
  if platform = "win32" then .processGroup else .session

/-- Starts the side process. -/
def start : Action Sidecar Unit := do
  let settings := (← get).settings
  let w ← read
  match ← attempt (call (.startProcess (command w.interpreter w.session)
      (sideEnvironment settings w.environment) (detachment w.platform))) with
  | .ok process =>
    modify (fun sidecar => { sidecar with process := some process })
    log .info "Cleanup side process started" [("pid", .int process.pid)]
  | .error fault =>
    if fault.problem.isOsTrouble then
      fail (.because (.resourceManager
        ("Failed to start cleanup side process: " ++ fault.message)) fault)
    else fail fault

/-- Closes the pipe; the side process then removes the session's resources. -/
def close : Action Sidecar Unit := do
  match (← get).process with
  | some process => if process.hasInput then call .closeProcessInput
  | none => return

end Sidecar

end Mooring
