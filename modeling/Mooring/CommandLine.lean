import Mooring.CommandLine.Request
import Mooring.Connection
import Mooring.Sweep
import Mooring.Text.Markup

/-! The program's command line at work. A request is carried out over one connection, which is
closed however that ends; the program's own failures are told in one line and end in exit code 1,
any other problem goes on to the caller. -/

namespace Mooring.CommandLine

open Mooring.Action

variable {σ : Type}

/-- How a run of the command line ended. -/
inductive Ending where
  | halted (halt : Halt)
  | finished (code : Value)
  deriving Repr

/-! ### Requests -/

/-- A cell of a table; only texts can be shown in one. -/
def cell : Value → Except Misfit String
  | .text s => .ok s
  | v => .error (.noDisplay v.typeName)

/-- A row with a name and a value. -/
def row (name : String) (value : Value) : Action σ (List String) := do
  let shown ← ofExcept ((cell value).mapError .misfit)
  return [name, shown]

/-- Shows what is known of the daemon. -/
def info : Action Connection Value := do
  let _ ← Connection.client
  let daemon ← Connection.daemon
  let route ← Connection.route
  let strategy ← row "Strategy" (.text (← route.describe))
  let host ← row "Host address" (.text (← Connection.hostAddress))
  let server ← row "Server version" daemon.serverVersion
  let api ← row "API version" daemon.apiVersion
  let system ← row "Operating system" daemon.operatingSystem
  let memory ← row "Total memory" (.text (Number.intText daemon.memoryMb ++ " MB"))
  let storage ← row "Storage driver" (daemon.storageDriver.orElse (.text "-"))
  let execution ← row "Execution driver" (daemon.executionDriver.orElse (.text "-"))
  let session ← row "Session" (.text (← read).session)
  print (.table "Docker environment" ["Property", "Value"]
    [strategy, host, server, api, system, memory, storage, execution, session])
  return .int 0

/-- The exit code in a container's status, 1 where the status tells none. -/
def exitCode (status : Value) : Except Problem Value := do
  let entries ← status.table
  return (entries.get? "StatusCode").getD (.int 1)

def outputBytes : Output → Except Problem (List UInt8)
  | .bytes bs => .ok bs
  | .text _ => .error (.misfit (.noMember "str" "decode"))

/-- Waits for a container to end, and takes its exit code and all it wrote. -/
def collectOutput (client : Client) (id : ResourceId) : Action σ (Value × String) := do
  let status ← onClient client (.waitContainer id)
  let output ← onClient client (.containerLogs id true)
  let code ← ofExcept (exitCode status)
  let bytes ← ofExcept (outputBytes output)
  return (code, String.ofList (Text.decodeLossy bytes))

/-- Carries out a command in a helper container, shows its output, and ends as it did. -/
def run (command : List String) : Action Connection Value := do
  let adjust : Action HelperSpec Unit :=
    modify (fun spec => { spec with command := .ofTexts command })
  let (code, output) ← Connection.runInside adjust collectOutput
  print (.plain output)
  return code

/-- Removes what a session left behind; what could not be removed is a failure. -/
def prune (session : String) : Action Connection Value := do
  let client ← Connection.client
  let count ← Sweep.run client (Session.labels session)
  let rows := count.entries.map (fun (name, n) => [name, Number.natText n])
  print (.table ("Pruned session " ++ session) ["Resource", "Count"] rows)
  return .int (if count.failed = 0 then 0 else 1)

def carryOut : Request → Action Connection Value
  | .info => info
  | .run command => run command
  | .prune session => prune session

/-! ### The program -/

/-- The line about a failure of the program's own. -/
def failureLine (failure : Failure) : String :=
  "[red]Error (" ++ failure.category.display ++ "):[/red] " ++
    String.ofList (Text.escape failure.message.toList)

/-- Carries out a request; a failure of the program's own is told and becomes exit code 1. -/
def answer (request : Request) : Action Connection Value := do
  match ← attempt (carryOut request) with
  | .ok code => return code
  | .error fault =>
    match fault.problem with
    | .failure failure =>
      print (.styled (failureLine failure))
      return .int 1
    | _ => fail fault

/-- Reads a command line and does what it asks for. -/
def execute (arguments : List String) : Action Connection Ending := do
  match readRequest arguments with
  | .error halt => return .halted halt
  | .ok request =>
    call .setUpLogging
    let ended ← attempt (answer request)
    Connection.close
    return .finished (← ofResult ended)

end Mooring.CommandLine
