import Mooring.Settings.Rule
import Mooring.Settings.Source

/-! The settings of the program, and the two groups of them that parts of the program take: how to
reach the daemon, and how to log. Each group can also be read from the sources on its own, by the
same names but under plainer rules. -/

namespace Mooring

structure Settings where
  dockerHost : Option String
  tlsVerify : Bool
  certPath : Option String
  socketPath : String
  machineName : Option String
  timeout : Int
  probeTimeout : Int
  minimumVersion : String
  tinyImage : String
  reaperImage : String
  reaperDisabled : Bool
  reaperPrivileged : Bool
  checksDisabled : Bool
  minimumFreeDiskMb : Int
  logLevel : String
  logFormat : String
  logFile : Option String
  logMaxSizeMb : Int
  logBackupCount : Int
  logSdkLevel : String
  deriving DecidableEq, Repr

/-- The settings about the daemon and the containers on it. -/
structure DaemonSettings where
  host : Option String
  tlsVerify : Bool
  certPath : Option String
  socketPath : String
  machineName : Option String
  timeout : Int
  probeTimeout : Int
  minimumVersion : String
  tinyImage : String
  reaperImage : String
  reaperDisabled : Bool
  reaperPrivileged : Bool
  checksDisabled : Bool
  minimumFreeDiskMb : Int
  deriving DecidableEq, Repr

/-- The settings about logging. -/
structure LogSettings where
  level : String
  format : String
  file : Option String
  maxSizeMb : Int
  backupCount : Int
  sdkLevel : String
  deriving DecidableEq, Repr

open Reading Rule

def Settings.read (s : Sources) : Reading Settings :=
  pure Settings.mk
    <*> field s "docker_host" none daemonAddress
    <*> field s "docker_tls_verify" false switch
    <*> field s "docker_cert_path" none optionalText
    <*> field s "docker_socket_path" "/var/run/docker.sock" text
    <*> field s "docker_machine_name" none optionalText
    <*> field s "docker_timeout" 60 (numberFrom 1)
    <*> field s "docker_probe_timeout" 10 (numberFrom 1)
    <*> field s "minimum_docker_version" "1.6.0" dottedVersion
    <*> field s "tiny_image" "alpine:3.5" text
    <*> field s "reaper_image" "testcontainers/ryuk:0.8.1" text
    <*> field s "reaper_disabled" false switch
    <*> field s "reaper_privileged" false switch
    <*> field s "checks_disable" false switch
    <*> field s "minimum_free_disk_mb" 2048 (numberFrom 0)
    <*> field s "log_level" "INFO" text
    <*> field s "log_format" "console" text
    <*> field s "log_file" none optionalText
    <*> field s "log_max_size_mb" 100 (numberFrom 1)
    <*> field s "log_backup_count" 5 (numberFrom 1)
    <*> field s "log_docker_sdk_level" "WARNING" text

/-- Reads the daemon group; an empty environment variable counts as not set. -/
def DaemonSettings.read (sources : Sources) : Reading DaemonSettings :=
  let s := sources.withoutEmpty
  pure DaemonSettings.mk
    <*> field s "docker_host" none optionalText
    <*> field s "docker_tls_verify" false flag
    <*> field s "docker_cert_path" none optionalText
    <*> field s "docker_socket_path" "/var/run/docker.sock" text
    <*> field s "docker_machine_name" none optionalText
    <*> field s "docker_timeout" 60 (numberFrom 1)
    <*> field s "docker_probe_timeout" 10 (numberFrom 1)
    <*> field s "minimum_docker_version" "1.6.0" text
    <*> field s "tiny_image" "alpine:3.5" text
    <*> field s "reaper_image" "testcontainers/ryuk:0.8.1" text
    <*> field s "reaper_disabled" false flag
    <*> field s "reaper_privileged" false flag
    <*> field s "checks_disable" false flag
    <*> field s "minimum_free_disk_mb" 2048 (numberFrom 0)

def LogSettings.read (s : Sources) : Reading LogSettings :=
  pure LogSettings.mk
    <*> field s "log_level" "INFO" text
    <*> field s "log_format" "console" text
    <*> field s "log_file" none optionalText
    <*> field s "log_max_size_mb" 100 (numberFrom 1)
    <*> field s "log_backup_count" 5 (numberFrom 1)
    <*> field s "log_docker_sdk_level" "WARNING" text

/-- Whether log lines are JSON. -/
def LogSettings.isJson (s : LogSettings) : Bool := Text.lower s.format.toList == "json".toList

/-- The daemon group by its own names. -/
def DaemonSettings.entries (s : DaemonSettings) : Record Value :=
  [("host", .ofOption .text s.host), ("tls_verify", .bool s.tlsVerify),
   ("cert_path", .ofOption .text s.certPath), ("socket_path", .text s.socketPath),
   ("machine_name", .ofOption .text s.machineName), ("timeout", .int s.timeout),
   ("probe_timeout", .int s.probeTimeout), ("minimum_version", .text s.minimumVersion),
   ("tiny_image", .text s.tinyImage), ("reaper_image", .text s.reaperImage),
   ("reaper_disabled", .bool s.reaperDisabled), ("reaper_privileged", .bool s.reaperPrivileged),
   ("checks_disable", .bool s.checksDisabled),
   ("minimum_free_disk_mb", .int s.minimumFreeDiskMb)]

/-- The logging group by its own names, with what its format comes to. -/
def LogSettings.entries (s : LogSettings) : Record Value :=
  [("level", .text s.level), ("format", .text s.format), ("file", .ofOption .text s.file),
   ("max_size_mb", .int s.maxSizeMb), ("backup_count", .int s.backupCount),
   ("docker_sdk_level", .text s.sdkLevel), ("json_output", .bool s.isJson)]

namespace Settings

/-- The settings about the daemon, by the names under which they are set. -/
def daemonEntries (s : Settings) : Record Value :=
  [("docker_host", .ofOption .text s.dockerHost),
   ("docker_tls_verify", .bool s.tlsVerify),
   ("docker_cert_path", .ofOption .text s.certPath),
   ("docker_socket_path", .text s.socketPath),
   ("docker_machine_name", .ofOption .text s.machineName),
   ("docker_timeout", .int s.timeout),
   ("docker_probe_timeout", .int s.probeTimeout),
   ("minimum_docker_version", .text s.minimumVersion),
   ("tiny_image", .text s.tinyImage),
   ("reaper_image", .text s.reaperImage),
   ("reaper_disabled", .bool s.reaperDisabled),
   ("reaper_privileged", .bool s.reaperPrivileged),
   ("checks_disable", .bool s.checksDisabled),
   ("minimum_free_disk_mb", .int s.minimumFreeDiskMb)]

/-- The settings about logging, by the names under which they are set. -/
def logEntries (s : Settings) : Record Value :=
  [("log_level", .text s.logLevel),
   ("log_format", .text s.logFormat),
   ("log_file", .ofOption .text s.logFile),
   ("log_max_size_mb", .int s.logMaxSizeMb),
   ("log_backup_count", .int s.logBackupCount),
   ("log_docker_sdk_level", .text s.logSdkLevel)]

def entries (s : Settings) : Record Value := s.daemonEntries ++ s.logEntries

/-- The daemon group, built from these settings while an environment is in force. -/
def daemon (s : Settings) (environment : Record String) : Reading DaemonSettings :=
  DaemonSettings.read { given := s.daemonEntries, environment }

/-- The logging group, built from these settings while an environment is in force. -/
def log (s : Settings) (environment : Record String) : Reading LogSettings :=
  LogSettings.read { given := s.logEntries, environment }

end Settings

end Mooring
