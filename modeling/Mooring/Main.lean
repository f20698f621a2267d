import Mooring.CommandLine
import Mooring.Log
import Mooring.Settings.File
import Mooring.Watch

/-! The program. It gathers its surroundings, carries out its command line over them, and shows what
came of it. No transport to a daemon is linked in, so every call on one fails; a build that has one
puts its own `World.answer` in place of `withoutTransport`. -/

namespace Mooring.Program

/-! ### Surroundings -/

/-- The variables in a block of them, each with its end. -/
def readVariables (block : List Char) : Record String :=
  (Text.splitAt (· == '\x00') block).filterMap (fun entry =>
    (Text.cutFirst '=' entry).map (fun (name, value) => (String.ofList name, String.ofList value)))

/-- The content of a file; none where it cannot be read. -/
def contentOf? (path : String) : IO (Option (List UInt8)) := do
  try
    let bytes ← IO.FS.readBinFile path
    return some bytes.toList
  catch _ => return none

def textOf (content : Option (List UInt8)) : List Char := Text.decodeLossy (content.getD [])

/-- A fresh identifier of a session. -/
def freshSession : IO String := do
  let n ← IO.rand 0 (Nat.pow 2 122 - 1)
  let digits := Text.hexDigits 32 n
  let part (start size : Nat) : List Char := (digits.drop start).take size
  let marked := part 0 8 ++ ['-'] ++ part 8 4 ++ ['-', '4'] ++ part 12 3 ++ ['-', 'a'] ++
    part 15 3 ++ ['-'] ++ part 18 12
  return String.ofList marked

/-- The sizes of the pieces in which the input arrives, up to its end. -/
partial def drain (input : IO.FS.Stream) (sizes : List Nat) : IO (List Nat) := do
  let piece ← input.read Watch.readSize.toUSize
  if piece.size = 0 then return sizes.reverse else drain input (piece.size :: sizes)

def noTransport : Problem :=
  .client .general "no transport to a daemon is part of this program"

/-- The answers where there is no transport to a daemon: only what this process can do by itself is
done. -/
def withoutTransport (_ : List Event) (call : Call) : Reply call.Answer :=
  match call with
  | .findExecutable _ => { result := .ok false }
  | .closeProcessInput | .setUpLogging | .sleep _ | .readInput _ | .work .. => { result := .ok () }
  | .client .. | .route .. | .socket _ | .clientFor .. | .clientFromEnvironment | .clientAt ..
  | .loadTls _ | .runCommand .. | .startProcess .. => { result := .error noTransport }

/-! ### Showing -/

def shownText : Shown → String
  | .styled line => line ++ "\n"
  | .plain text => text
  | .table title headers rows =>
    String.join ((title :: (headers :: rows).map ("\t".intercalate ·)).map (· ++ "\n"))

def severityOf : Level → Severity
  | .debug => .debug
  | .info => .info
  | .warning => .warning
  | .error => .error

def logEntry (level : Level) (event : String) (fields : Record Value) : LogEntry :=
  { logger := LogEntry.program, severity := severityOf level, event := .text event, fields }

/-- Shows one event: what is for the user on the output, log lines beside it. -/
def showEvent (logging : Logging) (json : Bool) (session : String) : Event → IO Unit
  | .called _ => return
  | .shown what => do (← IO.getStdout).putStr (shownText what)
  | .logged level message fields => do
    let entry := logEntry level message fields
    let time := Number.natText (← IO.monoMsNow)
    match logging.lines json session time [entry] with
    | .ok lines => lines.forM (fun line => do (← IO.getStderr).putStrLn line)
    | .error _ => return

def exitCode (code : Value) : UInt32 :=
  match code with
  | .int n => (n % 256).toNat.toUInt32
  | .null => 0
  | _ => 1

def complain (text : String) : IO Unit := do (← IO.getStderr).putStrLn text

/-- Tells how the program ended, as an exit code. -/
def conclude (name : String) (ended : Except Fault CommandLine.Ending) : IO UInt32 := do
  match ended with
  | .ok (.halted (.help text)) =>
    (← IO.getStdout).putStr text
    return 0
  | .ok (.halted (.usage fault)) =>
    complain (name ++ ": error: " ++ fault.message)
    return 2
  | .ok (.finished code) => return exitCode code
  | .error fault =>
    complain (fault.problem.kindName ++ ": " ++ fault.message)
    return 1

/-! ### The two command lines -/

/-- The arguments that make a process a side process. -/
def watchArguments? : List String → Option (List String)
  | "-m" :: name :: arguments => if name = Sidecar.watchModule then some arguments else none
  | _ => none

def complainOf (issues : List Issue) : IO UInt32 := do
  issues.forM (fun issue => complain (issue.field ++ ": " ++ issue.complaint.message))
  return 1

/-- Carries out an action and shows what it did. -/
def perform {σ : Type} (name : String) (w : World) (log : LogSettings) (object : σ)
    (act : Action σ CommandLine.Ending) : IO UInt32 := do
  let (ended, _, journal) := act w object {}
  let (_, logging) := Logging.setUp log
  journal.events.forM (showEvent logging log.isJson w.session)
  conclude name ended

end Mooring.Program

open Mooring Program in
def main (arguments : List String) : IO UInt32 := do
  let environment := readVariables (textOf (← contentOf? "/proc/self/environ"))
  let file := SettingsFile.read environment (textOf (← contentOf? ".env"))
  let routes ← contentOf? Address.routingTable
  let watching := watchArguments? arguments
  let input ← if watching.isSome then drain (← IO.getStdin) [] else pure []
  let w : World :=
    { platform := "linux"
      environment
      session := ← freshSession
      interpreter := "mooring"
      input
      fileExists := fun _ => false
      fileBytes := fun path =>
        match routes with
        | some bytes => .ok bytes
        | none => .error (.os .fileNotFound (some 2) "No such file or directory" (some path))
      answer := withoutTransport }
  match Settings.read { environment, file }, LogSettings.read { environment } with
  | .ok settings, .ok log =>
    match watching with
    | some labels => perform "watchdog.py" w log () (Watch.execute labels)
    | none =>
      let connection : Connection := { settings, candidates := none }
      perform "dockerlink" w log connection (CommandLine.execute arguments)
  | .error issues, _ => complainOf issues
  | _, .error issues => complainOf issues
