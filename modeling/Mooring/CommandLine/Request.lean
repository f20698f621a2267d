import Mooring.CommandLine.Arguments

/-! What the command line of the program asks for, and the help it offers. -/

namespace Mooring.CommandLine

inductive Request where
  /-- Show what is known of the daemon. -/
  | info
  /-- Carry out a command in a helper container. -/
  | run (command : List String)
  /-- Remove what a session left behind. -/
  | prune (session : String)
  deriving DecidableEq, Repr

def commands : List String := ["info", "run", "prune"]

/-- Lines of a help text, each with its end. -/
def page (lines : List String) : String := String.join (lines.map (· ++ "\n"))

def programHelp : String := page
  ["usage: dockerlink [-h] \x7binfo,run,prune\x7d ...",
   "",
   "Docker environment diagnostics",
   "",
   "positional arguments:",
   "  \x7binfo,run,prune\x7d",
   "    info            Resolve the Docker daemon and show its details",
   "    run             Run a command in a helper container",
   "    prune           Remove resources left behind by a session",
   "",
   "options:",
   "  -h, --help        show this help message and exit",
   "",
   "Examples:",
   "  dockerlink info",
   "  dockerlink run -- df -P",
   "  dockerlink prune 2b1c7f0e-9d7a-4c57-8f0e-0d3c1f6b7e21"]

def infoHelp : String := page
  ["usage: dockerlink info [-h]",
   "",
   "options:",
   "  -h, --help  show this help message and exit"]

def runHelp : String := page
  ["usage: dockerlink run [-h] ...",
   "",
   "positional arguments:",
   "  cmd         Command to run",
   "",
   "options:",
   "  -h, --help  show this help message and exit"]

def pruneHelp : String := page
  ["usage: dockerlink prune [-h] session_id",
   "",
   "positional arguments:",
   "  session_id  Session identifier",
   "",
   "options:",
   "  -h, --help  show this help message and exit"]

def programGrammar : Grammar :=
  { options := [], operand := .command "command", help := programHelp }

def infoGrammar : Grammar := { options := [], operand := .absent, help := infoHelp }

def runGrammar : Grammar := { options := [], operand := .everything, help := runHelp }

def pruneGrammar : Grammar :=
  { options := [], operand := .single "session_id", help := pruneHelp }

/-- The command to carry out: every `--` among the arguments only separates. -/
def commandWords (words : List String) : List String := words.filter (· ≠ "--")

/-- The request of a command, with the arguments that nothing was made of. -/
def readCommand (name : String) (arguments : List String) :
    Except Halt (Request × List String) :=
  match name with
  | "info" => do
    let found ← readArguments infoGrammar arguments
    return (.info, found.unrecognized)
  | "run" => do
    let found ← readArguments runGrammar arguments
    return (.run (commandWords (found.operand.getD [])), found.unrecognized)
  | "prune" => do
    let found ← readArguments pruneGrammar arguments
    return (.prune ((found.operand.getD []).headD ""), found.unrecognized)
  | _ => .error (.usage (.unknownCommand "command" name commands))

/-- Refuses arguments that nothing was made of. -/
def refuseUnrecognized (arguments : List String) : Except Halt Unit :=
  if arguments.isEmpty then .ok () else .error (.usage (.unrecognized arguments))

/-- The request of a command line. -/
def readRequest (arguments : List String) : Except Halt Request := do
  let found ← readArguments programGrammar arguments
  let operand := found.operand.getD []
  let (request, unrecognized) ← readCommand (operand.headD "") operand.tail
  refuseUnrecognized (found.unrecognized ++ unrecognized)
  match request with
  | .run [] => .error (.usage .nothingToRun)
  | request => return request

end Mooring.CommandLine
