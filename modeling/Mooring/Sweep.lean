import Mooring.Action
import Mooring.Fault.Message
import Mooring.Session

/-! The sweep: every container, network, volume and image that carries given labels is removed.
Containers go first, since they hold the others. What is gone already is passed over; what the
daemon refuses to remove is counted, and the sweep goes on. -/

namespace Mooring

inductive ResourceKind where
  | container
  | network
  | volume
  | image
  deriving DecidableEq, Repr

def ResourceKind.plural : ResourceKind → String
  | .container => "containers"
  | .network => "networks"
  | .volume => "volumes"
  | .image => "images"

/-- How much a sweep removed of each kind, and how much it could not remove. -/
structure SweepCount where
  containers : Nat := 0
  networks : Nat := 0
  volumes : Nat := 0
  images : Nat := 0
  failed : Nat := 0
  deriving DecidableEq, Repr

namespace SweepCount

def removed (count : SweepCount) : ResourceKind → SweepCount
  | .container => { count with containers := count.containers + 1 }
  | .network => { count with networks := count.networks + 1 }
  | .volume => { count with volumes := count.volumes + 1 }
  | .image => { count with images := count.images + 1 }

def kept (count : SweepCount) : SweepCount := { count with failed := count.failed + 1 }

/-- The counts by name. -/
def entries (count : SweepCount) : Record Nat :=
  [("containers", count.containers), ("networks", count.networks), ("volumes", count.volumes),
   ("images", count.images), ("failed", count.failed)]

end SweepCount

namespace Sweep

open Mooring.Action

variable {σ : Type}

/-- The resources of a kind that carry the labels. -/
def list (client : Client) (filters : List String) : ResourceKind → Action σ (List ResourceId)
  | .container => onClient client (.containersMatching filters)
  | .network => onClient client (.networksMatching filters)
  | .volume => onClient client (.volumesMatching filters)
  | .image => onClient client (.imagesMatching filters)

def remove (client : Client) (id : ResourceId) : ResourceKind → Action σ Unit
  | .container => onClient client (.sweepContainer id)
  | .network => onClient client (.removeNetwork id)
  | .volume => onClient client (.removeVolume id)
  | .image => onClient client (.removeImage id)

/-- Removes one resource and counts how that went. -/
def removeOne (client : Client) (kind : ResourceKind) (count : SweepCount) (id : ResourceId) :
    Action σ SweepCount := do
  match ← attempt (remove client id kind) with
  | .ok () => return count.removed kind
  | .error fault =>
    if fault.problem.isNotFound then return count
    else if fault.problem.isRefusal then
      log .warning "Failed to remove labelled resource"
        [("kind", .text kind.plural), ("resource_id", .text id), ("error", .text fault.message)]
      return count.kept
    else fail fault

/-- Removes everything of one kind. -/
def removeKind (client : Client) (filters : List String) (count : SweepCount)
    (kind : ResourceKind) : Action σ SweepCount := do
  let ids ← list client filters kind
  ids.foldlM (removeOne client kind) count

def kinds : List ResourceKind := [.container, .network, .volume, .image]

/-- Removes everything that carries the labels. -/
def run (client : Client) (labels : Record Value) : Action σ SweepCount := do
  let count ← kinds.foldlM (removeKind client (Session.labelFilters labels)) {}
  log .info "Pruned labelled resources" (count.entries.map (fun (name, n) => (name, .int n)))
  return count

end Sweep

end Mooring
