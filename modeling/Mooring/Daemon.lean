import Mooring.Value.Read

/-! What a daemon tells about itself. An answer that counts as nothing is read as an empty text or
as zero; any other is kept as it came, whatever its type. -/

namespace Mooring

structure Daemon where
  apiVersion : Value
  executionDriver : Value
  serverVersion : Value
  operatingSystem : Value
  memoryBytes : Int
  storageDriver : Value
  deriving Repr

namespace Daemon

/-- An entry of a table, an empty text where it is missing or counts as nothing. -/
def fact (table : Record Value) (key : String) : Value := (Value.entry table key).orElse (.text "")

/-- Reads the daemon's answers about itself and its version. -/
def read (info version : Value) : Except Problem Daemon := do
  let version ← version.table
  let info ← info.table
  let memoryBytes ← ((Value.entry info "MemTotal").orElse (.int 0)).toInt
  return {
    apiVersion := fact version "ApiVersion"
    executionDriver := fact info "ExecutionDriver"
    serverVersion := (Value.entry version "Version").orElse (fact info "ServerVersion")
    operatingSystem := fact info "OperatingSystem"
    memoryBytes
    storageDriver := fact info "Driver" }

def memoryMb (d : Daemon) : Int := d.memoryBytes.fdiv (1024 * 1024)

/-- The storage driver of Windows containers. -/
def windowsDriver : String := "windowsfilter"

/-- Whether the daemon runs Windows containers. -/
def runsWindows (d : Daemon) : Except Problem Bool := do
  if ← d.storageDriver.holds windowsDriver then return true
  d.executionDriver.holds windowsDriver

/-- Everything known of a daemon, by name. -/
def entries (d : Daemon) : Except Problem (Record Value) := do
  let windows ← d.runsWindows
  return [("api_version", d.apiVersion), ("execution_driver", d.executionDriver),
    ("server_version", d.serverVersion), ("operating_system", d.operatingSystem),
    ("total_memory_bytes", .int d.memoryBytes), ("storage_driver", d.storageDriver),
    ("total_memory_mb", .int d.memoryMb), ("uses_windows_filter", .bool windows)]

end Daemon

end Mooring
