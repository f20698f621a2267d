import Mooring.Route

/-! The choice of a route: candidates are tried in order, and the first whose probe succeeds is
taken. What went wrong on the way is told only if none succeeds. -/

namespace Mooring.Route

open Mooring.Action

variable {σ : Type}

/-- The known ways, most specific first. -/
def knownKinds : List RouteKind := [.environment, .unixSocket, .namedPipe, .dockerMachine]

/-- A fresh route of every known way. -/
def discover (settings : Settings) : List Route :=
  knownKinds.map (fun kind => { way := .known kind, settings })

/-- How the trial of a candidate ended. -/
inductive Trial where
  | skipped
  | failed (attempt : String)
  | works
  deriving DecidableEq, Repr

/-- The line about a failed candidate. -/
def attemptLine (description : String) (problem : Problem) : String :=
  description ++ ": " ++ problem.kindName ++ " (" ++ problem.message ++ ")"

/-- Tries one candidate. -/
def tryOut : Action Route Trial := do
  let applicable ← isApplicable
  let description ← (← get).describe
  if !applicable then
    log .debug "Skipping connection strategy"
      [("strategy", .text description), ("reason", .text "not applicable")]
    return .skipped
  log .debug "Probing connection strategy" [("strategy", .text description)]
  match ← attempt probe with
  | .ok _ =>
    log .info "Found Docker environment" [("strategy", .text description)]
    return .works
  | .error fault =>
    if !fault.problem.isException then fail fault
    log .debug "Connection strategy failed"
      [("strategy", .text description), ("error", .text fault.message)]
    return .failed (attemptLine description fault.problem)

/-- Tries candidates in turn. Answers how that ended, and all candidates as the trials left
them; `attempts` holds the lines about those that failed before. -/
def chooseAfter (attempts : List String) :
    List Route → Action σ (Except Fault Route × List Route)
  | [] => do
    log .error "Could not find a valid Docker environment" [("failures", .ofTexts attempts)]
    return (.error (.ofFailure (.noViableConnection attempts)), [])
  | candidate :: candidates => do
    match ← runOn candidate tryOut with
    | (.error fault, candidate) => return (.error fault, candidate :: candidates)
    | (.ok .works, candidate) => return (.ok candidate, candidate :: candidates)
    | (.ok .skipped, candidate) =>
      let (chosen, candidates) ← chooseAfter attempts candidates
      return (chosen, candidate :: candidates)
    | (.ok (.failed line), candidate) =>
      let (chosen, candidates) ← chooseAfter (attempts ++ [line]) candidates
      return (chosen, candidate :: candidates)

/-- The first candidate that works, and all candidates afterwards. -/
def choose (candidates : List Route) : Action σ (Except Fault Route × List Route) :=
  chooseAfter [] candidates

end Mooring.Route
