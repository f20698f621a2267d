import Mooring.Helper.Container
import Mooring.Text.Line

/-! The free disk space of a daemon, read from a table of file systems that a helper container
prints. A table that cannot be read leaves the space unknown, and unknown space is enough. -/

namespace Mooring

/-- What is known of a file system; each part may be unknown. -/
structure DiskUsage where
  availableMb : Option Int := none
  usedPercent : Option Int := none
  deriving DecidableEq, Repr

namespace DiskUsage

open Text Mooring.Action

variable {σ : Type}

def unknown : DiskUsage := {}

/-- What is known, by name. -/
def entries (usage : DiskUsage) : Record Value :=
  [("available_mb", .ofOption .int usage.availableMb),
   ("used_percent", .ofOption .int usage.usedPercent)]

/-- The fields of the row of a mount point, which stands last in it. -/
def rowFields? (mountPoint : List Char) (line : List Char) : Option (List (List Char)) :=
  let row := fields line
  if row.length < 6 then none
  else if row.getLast? = some mountPoint then some row
  else none

/-- Kibibytes available and the share in use, in the fourth and fifth field of a row. -/
def ofRow (row : List (List Char)) : Except NumeralFault DiskUsage := do
  let available ← readInt .ten (row.getD 3 [])
  let used ← readInt .ten (((row.getD 4 []).reverse.dropWhile (· == '%')).reverse)
  return ⟨some (available.fdiv 1024), some used⟩

/-- The first row of a mount point below the heading of a table. -/
def findRow? (mountPoint : List Char) : List (List Char) → Option (List Char × List (List Char))
  | [] => none
  | line :: lines =>
    match rowFields? mountPoint line with
    | some row => some (line, row)
    | none => findRow? mountPoint lines

/-- The usage that a table shows for a mount point. -/
def ofTable (table : List Char) (mountPoint : List Char) : Action σ DiskUsage :=
  match findRow? mountPoint ((lines table).drop 1) with
  | none => return unknown
  | some (line, row) =>
    match ofRow row with
    | .ok usage => return usage
    | .error _ => do
      log .debug "Unparseable df line" [("line", .text (String.ofList line))]
      return unknown

def outputText : Output → List Char
  | .bytes bs => decodeLossy bs
  | .text s => s.toList

/-- The command that prints the table. -/
def tableCommand : Value := .ofTexts ["df", "-P"]

/-- Prints the table in a helper container and reads it. -/
def measure (client : Client) (image : String) : Action σ DiskUsage := do
  ensureImage client image
  let spec := { HelperSpec.ofImage (← read).session image with command := tableCommand }
  let output ← withHelper client spec (fun id => do
    let _ ← onClient client (.waitContainer id)
    onClient client (.containerLogs id false))
  ofTable (outputText output) ['/']

/-- Fails where less than the required space is known to be free. -/
def check (client : Client) (image : String) (requiredMb : Int) : Action σ DiskUsage := do
  let usage ← measure client image
  log .info "Disk space check" usage.entries
  match usage.availableMb with
  | some available =>
    if available < requiredMb then
      failWith (.notEnoughDiskSpace (.int available) (.int requiredMb))
    else return usage
  | none => return usage

end DiskUsage

end Mooring
