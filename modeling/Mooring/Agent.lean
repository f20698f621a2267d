import Mooring.Agent.Reaper
import Mooring.Agent.Sidecar
import Mooring.Daemon

/-! The agent that removes the session's resources when this process ends, however it ends. It is
chosen by what the daemon can run and started once, when it is first asked for. -/

namespace Mooring

inductive AgentKind where
  | sidecar
  | reaper
  deriving DecidableEq, Repr

def AgentKind.label : AgentKind → String
  | .sidecar => "sidecar"
  | .reaper => "reaper"

/-- What does an agent's work. -/
inductive Cleaner where
  | sidecar (sidecar : Sidecar)
  | reaper (reaper : Reaper)
  deriving DecidableEq, Repr

structure Agent where
  cleaner : Cleaner
  started : Bool := false
  deriving DecidableEq, Repr

namespace Agent

open Mooring.Action

def kind (agent : Agent) : AgentKind :=
  match agent.cleaner with
  | .sidecar _ => .sidecar
  | .reaper _ => .reaper

/-- How long a reaper is waited for, in seconds, unless told otherwise. -/
def usualPatience : Binary64 := ⟨false, 30 * Nat.pow 2 48, -48⟩

/-- The agent for a daemon: a Windows daemon cannot run a reaper. -/
def select (daemon : Daemon) (client : Client) (host : String) (settings : Settings) :
    Except Problem Agent := do
  if ← daemon.runsWindows then
    return { cleaner := .sidecar { settings } }
  else
    return { cleaner := .reaper { client, settings, host, patience := usualPatience } }

def withCleaner (cleaner : Cleaner) (agent : Agent) : Agent := { agent with cleaner }

/-- Starts the work of the agent. -/
def startCleaner : Action Agent Unit := do
  match (← get).cleaner with
  | .sidecar sidecar => within (withCleaner ∘ .sidecar) sidecar Sidecar.start
  | .reaper reaper => within (withCleaner ∘ .reaper) reaper Reaper.start

/-- Starts the agent, unless it was started before. -/
def ensureStarted : Action Agent Unit := do
  let agent ← get
  if agent.started then return
  log .info "Starting resource manager" [("kind", .text agent.kind.label)]
  startCleaner
  modify (fun agent => { agent with started := true })

/-- Lets go of what the agent watches, so that it starts to remove. -/
def close : Action Agent Unit := do
  match (← get).cleaner with
  | .sidecar sidecar => within (withCleaner ∘ .sidecar) sidecar Sidecar.close
  | .reaper reaper => within (withCleaner ∘ .reaper) reaper Reaper.close

end Agent

end Mooring
