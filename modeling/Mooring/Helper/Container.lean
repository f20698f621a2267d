import Mooring.Action
import Mooring.Fault.Message
import Mooring.Helper.Spec

/-! Helper containers. One is created and started, handed to the caller and removed with its
volumes however the caller's work ends. A failure to remove it never hides the failure of the
work: it becomes a note on it. -/

namespace Mooring

open Mooring.Action

variable {σ α : Type}

/-- Pulls an image unless a copy is there. -/
def ensureImage (client : Client) (image : String) : Action σ Unit := do
  let copies ← onClient client (.imagesNamed image)
  unless copies.isEmpty do return
  let (repository, tag) := pullTarget image
  log .info "Pulling image" [("image", .text image)]
  match ← attempt (onClient client (.pullImage repository tag)) with
  | .ok () => log .info "Pulled image" [("image", .text image)]
  | .error fault =>
    if fault.problem.isDaemonTrouble then
      log .error "Failed to pull image" [("image", .text image), ("error", .text fault.message)]
      fail (.because (.imagePull image (some fault.message)) fault)
    else fail fault

/-- Whether a container that could not be removed is gone anyway, or about to be. -/
def isBenignRemoval (problem : Problem) : Bool :=
  problem.isNotFound || (problem.isRefusal && problem.status? == some 500)

/-- Removes a container by force, with its volumes. -/
def removeContainer (client : Client) (id : ResourceId) : Action σ Unit := do
  match ← attempt (onClient client (.removeContainer id)) with
  | .ok () => log .debug "Removed container" [("container_id", .text (shortId id))]
  | .error fault =>
    if !fault.problem.isRefusal then fail fault
    else if isBenignRemoval fault.problem then
      log .debug "Ignoring container removal failure"
        [("container_id", .text (shortId id)), ("error", .text fault.message)]
    else fail (.because (.containerCleanup id (some fault.message)) fault)

/-- The note on a fault whose helper container could not be removed either. -/
def removalNote (id : ResourceId) (fault : Fault) : String :=
  "Additionally, removing helper container " ++ shortId id ++ " failed: " ++ fault.message

/-- Removes the container of work that ended in a fault, and ends in that fault. -/
def removeAfter (client : Client) (id : ResourceId) (fault : Fault) : Action σ α := do
  match ← attempt (removeContainer client id) with
  | .ok () => fail fault
  | .error removal =>
    if removal.problem.isException then
      log .error "Failed to remove helper container after error"
        [("container_id", .text (shortId id)), ("error", .text removal.message)]
      fail (fault.note (removalNote id removal))
    else fail removal

/-- Carries out work in a fresh helper container. Whatever the work ends in comes out as it is, and
so does trouble in creating, starting or removing the container: none of these calls ends as an
iteration does, which alone would come out as other trouble. -/
def withHelper (client : Client) (spec : HelperSpec) (work : ResourceId → Action σ α) :
    Action σ α := do
  let id ← onClient client (.createContainer spec.request)
  log .debug "Created helper container"
    [("container_id", .text (shortId id)), ("image", .text spec.image)]
  match ← attempt (do onClient client (.startContainer id); work id) with
  | .ok a =>
    removeContainer client id
    return a
  | .error fault => removeAfter client id fault

end Mooring
