import Mooring.Proofs.Run
import Mooring.Settings

/-! Plain worlds, in which every call is answered with what there is least to say about, but for
some trouble. They show what the results on calm worlds come to. -/

namespace Mooring

def Settings.plain : Settings where
  dockerHost := none
  tlsVerify := false
  certPath := none
  socketPath := "/var/run/docker.sock"
  machineName := none
  timeout := 60
  probeTimeout := 10
  minimumVersion := "1.6.0"
  tinyImage := "alpine:3.5"
  reaperImage := "testcontainers/ryuk:0.8.1"
  reaperDisabled := false
  reaperPrivileged := false
  checksDisabled := true
  minimumFreeDiskMb := 2048
  logLevel := "INFO"
  logFormat := "console"
  logFile := none
  logMaxSizeMb := 100
  logBackupCount := 5
  logSdkLevel := "WARNING"

def ClientCall.plain : (c : ClientCall) → c.Answer
  | .version => .object [("Version", .text "24.0.7"), ("ApiVersion", .text "1.43")]
  | .info | .waitContainer _ | .containerPorts _ => .object []
  | .imagesNamed name => [name]
  | .imagesMatching _ | .containersMatching _ | .networksMatching _ | .volumesMatching _ => []
  | .createContainer _ | .runContainer _ => "helper"
  | .containerLogs _ _ => .text ""
  | .ping | .close | .setTimeout _ | .pullImage _ _ | .removeImage _ | .startContainer _
  | .reloadContainer _ | .killContainer _ | .sweepContainer _ | .removeNetwork _
  | .removeVolume _ | .removeContainer _ => ()

/-- A plain answer to a call. A supplied route's client has the name of the route. -/
def Call.plain : (c : Call) → c.Answer
  | .client _ c => c.plain
  | .route _ .isApplicable => true
  | .route name .createClient => name
  | .route _ .hostAddress => some "localhost"
  | .socket (.connect _ _) => 0
  | .socket (.receive _ _) => []
  | .socket (.send _ _) | .socket (.clearTimeout _) | .socket (.close _) => ()
  | .clientFor _ _ | .clientFromEnvironment | .clientAt _ _ _ => "client"
  | .findExecutable _ => true
  | .runCommand _ _ => { output := "", complaint := "", code := 0 }
  | .startProcess _ _ _ => { pid := 1, hasInput := false }
  | .loadTls _ | .closeProcessInput | .setUpLogging | .sleep _ | .readInput _ | .work _ _ => ()

/-- The world with a trouble of its own for some calls, and a plain answer to every other. -/
def World.plain (trouble : Call → Option Problem) : World where
  platform := "linux"
  environment := []
  session := "session"
  interpreter := "interpreter"
  input := []
  fileExists := fun _ => false
  fileBytes := fun _ => .ok []
  answer := fun _ c =>
    match trouble c with
    | some problem => { result := .error problem }
    | none => { result := .ok c.plain }

theorem World.calm_plain {trouble : Call → Option Problem}
    (h : ∀ c problem, trouble c = some problem → problem.isException = true) :
    (World.plain trouble).Calm := by
  refine ⟨fun events c problem hr => ?_, fun _ _ hr => (by cases hr), fun _ _ _ hr => by cases hr⟩
  cases htrouble : trouble c with
  | none =>
    simp only [World.plain, htrouble] at hr
    cases hr
  | some problem' =>
    simp only [World.plain, htrouble] at hr
    cases hr
    exact h c problem htrouble

end Mooring
