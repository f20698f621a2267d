import Mooring.CommandLine
import Mooring.Sweep

/-! The side process. It waits until its input ends, which means that the process holding the other
end is gone, and then removes everything that carries the labels it was given. -/

namespace Mooring.Watch

open Mooring.Action CommandLine

variable {σ : Type}

def helpText : String := page
  ["usage: watchdog.py [-h] [--label LABEL]",
   "",
   "Remove labelled Docker resources when the parent process exits",
   "",
   "options:",
   "  -h, --help     show this help message and exit",
   "  --label LABEL  key=value label to match (repeatable)"]

/-- Why a text is no label. -/
def labelRefusal (text : String) : Option String :=
  match Session.readLabel text with
  | some _ => none
  | none => some (Problem.badLabel text).message

def labelOption : ValueOption := { name := "--label", refusal := labelRefusal }

def grammar : Grammar := { options := [labelOption], operand := .absent, help := helpText }

/-- The labels of a command line; of several values for one key the last counts. -/
def readLabels (arguments : List String) : Except Halt (Record String) := do
  let found ← readArguments grammar arguments
  refuseUnrecognized found.unrecognized
  let labels := Record.ofPairs (found.values.filterMap (fun given => Session.readLabel given.2))
  if labels.isEmpty then throw (.usage .noLabel) else return labels

/-- How much is read at once. -/
def readSize : Nat := 4096

/-- Reads pieces of input up to an empty one or to the end. -/
def awaitEnd : List Nat → Action σ Unit
  | [] => tell (.readInput readSize)
  | size :: sizes => do
    tell (.readInput readSize)
    if size = 0 then return else awaitEnd sizes

/-- Waits for the end of input and removes what carries the labels. The client is closed however
that ends. -/
def watch (labels : Record String) : Action σ Unit := do
  awaitEnd (← read).input
  log .info "Parent process exited, pruning resources" [("labels", .ofTextTable labels)]
  let client ← call .clientFromEnvironment
  let swept ← attempt (Sweep.run client (labels.map (fun (key, value) => (key, .text value))))
  onClient client .close
  let _ ← ofResult swept
  return

/-- Reads the command line of the side process and keeps watch. -/
def execute (arguments : List String) : Action σ Ending := do
  match readLabels arguments with
  | .error halt => return .halted halt
  | .ok labels =>
    watch labels
    return .finished (.int 0)

end Mooring.Watch
