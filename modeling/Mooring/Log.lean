import Mooring.Log.Line
import Mooring.Settings
import Mooring.Text.Path

/-! Logging as the settings have it. Lines go to the console and perhaps to a file; a threshold of
the program's own holds for all loggers but those of the libraries below it, which have theirs.
Nothing is set before logging is set up; a name that sets no threshold stops it halfway, and so does
a file that cannot be opened. -/

namespace Mooring

/-- A log file, which is put aside when it grows beyond a size. -/
structure LogFile where
  path : String
  maxBytes : Int
  backups : Int
  deriving DecidableEq, Repr

/-- The disk that log files are written to, which may refuse to make or to open something. -/
structure Disk where
  /-- Makes the directory of the file at a path, with those above it, where there is none. -/
  makeDirectoryOf : String → Except Problem Unit := fun _ => .ok ()
  openFile : String → Except Problem Unit := fun _ => .ok ()

structure Logging where
  /-- The threshold of all loggers without one of their own. -/
  threshold : Nat := 30
  /-- The threshold of the libraries' loggers; zero leaves them to the common one. -/
  libraryThreshold : Nat := 0
  toConsole : Bool := false
  file : Option LogFile := none
  deriving DecidableEq, Repr

namespace Logging

/-- The libraries whose loggers have a threshold of their own. -/
def libraries : List String := ["docker", "urllib3"]

/-- Refuses the character with the number zero, which no name of a file can hold. -/
def checkNames (cs : List Char) : Except Problem Unit :=
  if cs.contains '\x00' then .error (.value "embedded null byte") else .ok ()

/-- The log file that the settings ask for, opened in its directory. -/
def logFile? (settings : LogSettings) (disk : Disk) : Except Problem (Option LogFile) :=
  match settings.file with
  | none => .ok none
  | some path =>
    if path = "" then .ok none
    else do
      checkNames (Text.namesAbove path.toList).flatten
      disk.makeDirectoryOf path
      checkNames path.toList
      disk.openFile path
      return some
        { path := String.ofList (Text.plainPath path.toList)
          maxBytes := settings.maxSizeMb * 1024 * 1024
          backups := settings.backupCount }

/-- Sets logging up: how that ended, and what is in force after it. -/
def setUp (settings : LogSettings) (disk : Disk := {}) : Except Problem Unit × Logging :=
  let opened : Logging := { toConsole := true }
  match Severity.threshold 20 settings.level with
  | .error problem => (.error problem, opened)
  | .ok threshold =>
    let logging : Logging := { opened with threshold }
    match logFile? settings disk with
    | .error problem => (.error problem, logging)
    | .ok file =>
      let logging : Logging := { logging with file }
      match Severity.threshold 30 settings.sdkLevel with
      | .error problem => (.error problem, logging)
      | .ok libraryThreshold => (.ok (), { logging with libraryThreshold })

/-- Whether a logger belongs to a library. -/
def isOf (library logger : String) : Bool :=
  logger == library || (library ++ ".").toList.isPrefixOf logger.toList

/-- The threshold in force for a logger. -/
def thresholdFor (logging : Logging) (logger : String) : Nat :=
  if logging.libraryThreshold ≠ 0 ∧ libraries.any (isOf · logger) then logging.libraryThreshold
  else logging.threshold

/-- Whether an entry is grave enough to be written. -/
def admits (logging : Logging) (entry : LogEntry) : Bool :=
  logging.thresholdFor entry.logger ≤ entry.severity.rank

/-- The line of an entry, unless it is not written. -/
def line? (logging : Logging) (json : Bool) (session time : String) (entry : LogEntry) :
    Except Problem (Option String) := do
  if !entry.plain then entry.checkFields.mapError .misfit
  if logging.admits entry then entry.line json session time else return none

/-- The lines of the entries that are written. -/
def lines (logging : Logging) (json : Bool) (session time : String) (entries : List LogEntry) :
    Except Problem (List String) := do
  let lines ← entries.mapM (logging.line? json session time)
  return lines.filterMap id

end Logging

end Mooring
