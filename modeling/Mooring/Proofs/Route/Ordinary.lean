import Mooring.Proofs.Helper.Tidy
import Mooring.Route.Choice

/-! Looking for a daemon takes no part in helper containers and shows nothing: routes are asked,
clients opened, greeted and closed, and lines are written. -/

namespace Mooring.Route

open Mooring.Action

variable {σ : Type} {w : World} {inv : σ → Prop}

/-- Nothing is said of a route. -/
def Any (_ : Route) : Prop := True

/-! ### Virtual machines -/

theorem takes_runMachine (settings : Settings) (arguments : List String) :
    Takes w .ordinary inv (runMachine settings arguments : Action σ String) :=
  .bind (.call (fun _ => rfl)) (fun _ => .ite (.fail _) (.pure _))

theorem takes_machineName : Takes w .ordinary Any machineName := by
  have keeps (name : String) : Takes w .ordinary Any
      (do modify (fun r : Route => { r with machine := some name }); return name) :=
    .bind (.modify (fun _ => id)) (fun _ => .pure _)
  refine .bind .get (fun r => ?_)
  split
  · exact .pure _
  · split
    · exact .bind (.pure _) keeps
    · refine .bind (takes_runMachine _ _) (fun listing => ?_)
      split
      · exact .bind (.pure _) keeps
      · exact .bind (.fail _) keeps

theorem takes_machineTls : Takes w .ordinary Any machineTls := by
  refine .bind takes_machineName (fun name => .bind .get (fun r => ?_))
  exact .bind (takes_runMachine _ _) (fun store => .bind (.call (fun _ => rfl)) (fun _ => .pure _))

/-! ### Probing -/

theorem takes_isApplicable : Takes w .ordinary Any isApplicable := by
  refine .bind .get (fun r => .bind .read (fun w => ?_))
  split
  · exact .pure _
  · exact .pure _
  · exact .pure _
  · exact .call (fun _ => rfl)
  · exact .call (fun _ => rfl)

theorem takes_openClient : Takes w .ordinary Any openClient := by
  refine .bind .get (fun r => .bind .read (fun w => ?_))
  split
  · exact .call (fun _ => rfl)
  · exact .call (fun _ => rfl)
  · exact .call (fun _ => rfl)
  · refine .bind takes_machineName (fun name => .bind (takes_runMachine _ _) (fun url => ?_))
    exact .bind (.log rfl) (fun _ => .bind takes_machineTls (fun tls => .call (fun _ => rfl)))
  · exact .call (fun _ => rfl)

theorem takes_defaultGateway (path : String) :
    Takes w .ordinary inv (Address.defaultGateway path : Action σ (Option String)) := by
  refine .bind .read (fun w => ?_)
  split
  · exact .bind (.ofExcept _) (fun _ => .pure _)
  · exact .ite (.bind (.log rfl) (fun _ => .pure _)) (.fail _)

theorem takes_findHost : Takes w .ordinary Any findHost := by
  refine .bind .get (fun r => .bind .read (fun w => ?_))
  split
  · exact .bind (.ofExcept _) (fun _ => .pure _)
  · refine .ite (.bind (takes_defaultGateway _) (fun gateway => ?_)) (.pure _)
    split
    · exact .pure _
    · exact .pure _
  · exact .pure _
  · exact .bind takes_machineName (fun name => .bind (takes_runMachine _ _) (fun _ => .pure _))
  · exact .call (fun _ => rfl)

theorem takes_closeQuietly (client : Client) :
    Takes w .ordinary inv (closeQuietly client : Action σ Unit) := by
  refine .bind (.attempt (.call (fun _ => rfl))) (fun closed => ?_)
  split
  · exact .pure _
  · exact .ite (.log rfl) (.fail _)

theorem takes_greet (client : Client) : Takes w .ordinary Any (greet client) :=
  .bind (.call (fun _ => rfl)) (fun _ => takes_findHost)

theorem takes_probe : Takes w .ordinary Any probe := by
  refine .bind takes_openClient (fun client => ?_)
  refine .bind (.attempt (takes_greet client)) (fun greeted => ?_)
  split
  · refine .bind .get (fun r => .bind (.tell (fun _ => rfl)) (fun _ => ?_))
    exact .bind (.modify (fun _ => id)) (fun _ => .pure _)
  · exact .ite (.bind (takes_closeQuietly client) (fun _ => .fail _)) (.fail _)

theorem takes_describe (r : Route) : Takes w .ordinary inv (r.describe : Action σ String) :=
  .bind .read (fun _ => .pure _)

theorem takes_tryOut : Takes w .ordinary Any tryOut := by
  refine .bind takes_isApplicable (fun applicable => .bind .get (fun r => ?_))
  refine .bind (takes_describe r) (fun description => .ite ?_ ?_)
  · exact .bind (.log rfl) (fun _ => .pure _)
  · refine .bind (.log rfl) (fun _ => .bind (.attempt takes_probe) (fun probed => ?_))
    split
    · exact .bind (.log rfl) (fun _ => .pure _)
    · exact .ite (.bind (.fail _) (fun _ => .bind (.log rfl) (fun _ => .pure _)))
        (.bind (.log rfl) (fun _ => .pure _))

theorem takes_chooseAfter (attempts : List String) (candidates : List Route) :
    Takes w .ordinary inv
      (chooseAfter attempts candidates : Action σ (Except Fault Route × List Route)) := by
  induction candidates generalizing attempts with
  | nil => exact .bind (.log rfl) (fun _ => .pure _)
  | cons candidate candidates ih =>
    refine .bind (.runOn takes_tryOut trivial) (fun tried => ?_)
    split
    · exact .pure _
    · exact .pure _
    · exact .bind (ih _) (fun _ => .pure _)
    · exact .bind (ih _) (fun _ => .pure _)

/-! ### A route in use -/

theorem takes_client (r : Route) : Takes w .ordinary inv (r.client : Action σ Client) := by
  unfold Route.client
  split
  · exact .pure _
  · exact .bind (takes_describe r) (fun _ => .failWith _)

theorem takes_hostAddress (r : Route) :
    Takes w .ordinary inv (r.hostAddress : Action σ String) := by
  unfold Route.hostAddress
  split
  · exact .pure _
  · exact .bind (takes_describe r) (fun _ => .failWith _)

theorem takes_close : Takes w .ordinary Any close := by
  refine .bind .get (fun r => ?_)
  split
  · exact .pure _
  · exact .bind (takes_closeQuietly _) (fun _ => .modify (fun _ => id))

end Mooring.Route
