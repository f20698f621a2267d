import Mooring.Agent.Sidecar
import Mooring.Proofs.Helper.Bracket
import Mooring.Proofs.Route.Overlay

/-! The daemon of the side process. It is handed the configured address of the daemon, but not how
to trust it: its flag and its certificates are the process's own, whatever the settings are. It is
led to the daemon as a client from the environment is only where the process has the settings'
values already. -/

namespace Mooring.Sidecar

open Mooring.Action

/-- The environment of the side process is the process's own under the configured address. -/
theorem sideEnvironment_eq (settings : Settings) (environment : Record String) :
    sideEnvironment settings environment =
      environment.overlay "DOCKER_HOST" (settings.dockerHost.filter (· ≠ "")) := by
  rw [sideEnvironment]
  cases settings.dockerHost with
  | none => rfl
  | some host => by_cases hempty : host = "" <;> simp [Option.filter, hempty, Record.overlay]

theorem get?_sideEnvironment_of_ne {key : String} (h : key ≠ "DOCKER_HOST") (settings : Settings)
    (environment : Record String) :
    (sideEnvironment settings environment).get? key = environment.get? key := by
  rw [sideEnvironment_eq, Record.get?_overlay_of_ne (Ne.symm h)]

theorem get?_sideEnvironment_host {settings : Settings} {host : String}
    (hhost : settings.dockerHost = some host) (hne : host ≠ "") (environment : Record String) :
    (sideEnvironment settings environment).get? "DOCKER_HOST" = some host := by
  rw [sideEnvironment_eq, Record.get?_overlay_self, hhost]
  simp [Option.filter, hne]

/-! ### Against a client over the environment -/

section Against

variable (settings : Settings) (environment : Record String)

theorem flag_eq_iff :
    (sideEnvironment settings environment).get? "DOCKER_TLS_VERIFY" =
        (Route.clientEnvironment settings environment).get? "DOCKER_TLS_VERIFY" ↔
      (settings.tlsVerify = true → environment.get? "DOCKER_TLS_VERIFY" = some "1") := by
  rw [get?_sideEnvironment_of_ne (by decide), Route.get?_clientEnvironment_flag]
  cases settings.tlsVerify <;> simp

theorem verifies_iff :
    (Verifies (sideEnvironment settings environment) ↔
        Verifies (Route.clientEnvironment settings environment)) ↔
      (settings.tlsVerify = true → Verifies environment) := by
  have hside : Verifies (sideEnvironment settings environment) ↔ Verifies environment := by
    rw [Verifies, get?_sideEnvironment_of_ne (by decide), Verifies]
  rw [hside, Route.verifies_clientEnvironment_iff]
  cases settings.tlsVerify <;> simp

theorem certificates_eq_iff :
    (sideEnvironment settings environment).get? "DOCKER_CERT_PATH" =
        (Route.clientEnvironment settings environment).get? "DOCKER_CERT_PATH" ↔
      ∀ path, settings.certPath = some path → path ≠ "" →
        environment.get? "DOCKER_CERT_PATH" = some path := by
  rw [get?_sideEnvironment_of_ne (by decide), Route.get?_clientEnvironment_certificates]
  cases settings.certPath with
  | none => simp
  | some path => by_cases hempty : path = "" <;> simp [Option.filter, hempty]

theorem get?_eq_of_not_mem {key : String} (h : key ∉ daemonVariables) :
    (sideEnvironment settings environment).get? key =
      (Route.clientEnvironment settings environment).get? key := by
  have hne : key ≠ "DOCKER_HOST" := fun hkey => h (hkey ▸ List.mem_cons_self)
  rw [get?_sideEnvironment_of_ne hne, Route.get?_clientEnvironment_of_not_mem _ _ h]

end Against

/-- A start makes one call, which hands the environment over. -/
theorem start_run (s : Sidecar) (w : World) (j : Journal) :
    ∃ result s' j', start w s j = (result, s', j') ∧
      (j.afterCall w (.startProcess (command w.interpreter w.session)
        (sideEnvironment s.settings w.environment) (detachment w.platform))).Grows
          Event.isLogged j' := by
  let c : Call := .startProcess (command w.interpreter w.session)
    (sideEnvironment s.settings w.environment) (detachment w.platform)
  rw [start, run_bind_ok run_get, run_bind_ok run_read, run_bind_ok (run_attempt _)]
  cases hr : (w.answer j.events c).result with
  | ok process =>
    rw [run_call_ok hr]
    exact ⟨_, _, _, rfl, .add rfl _⟩
  | error problem =>
    rw [run_call_error hr]
    by_cases htrouble : (Fault.of problem).problem.isOsTrouble
    · simp only [htrouble, if_true]
      exact ⟨_, _, _, rfl, .refl _ _⟩
    · simp only [htrouble]
      exact ⟨_, _, _, rfl, .refl _ _⟩

/-- Where a daemon is configured, the side process and a client over the environment are handed its
address alike. They are handed the same flag exactly if none is set or the process has it the way
clients are handed it, and the same certificates exactly if none are set or the process has them;
they agree on whether to verify the daemon exactly if that is not set or the process has it, too. -/
theorem start_overlay {sources : Sources} {s : Sidecar} {r : Route} {host : String}
    (hread : Settings.read sources = Except.ok s.settings)
    (hhost : s.settings.dockerHost = some host) (hway : r.way = .known .environment)
    (hsettings : r.settings = s.settings) (w : World) (j j₁ : Journal) :
    ∃ side environment,
      (∃ result s' j', start w s j = (result, s', j') ∧
        (j.afterCall w (.startProcess (command w.interpreter w.session) side
          (detachment w.platform))).Grows Event.isLogged j') ∧
      Route.openClient w r j₁ =
        call (.clientFor environment s.settings.probeTimeout) w r j₁ ∧
      side.get? "DOCKER_HOST" = some host ∧ environment.get? "DOCKER_HOST" = some host ∧
      (side.get? "DOCKER_TLS_VERIFY" = environment.get? "DOCKER_TLS_VERIFY" ↔
        (s.settings.tlsVerify = true → w.environment.get? "DOCKER_TLS_VERIFY" = some "1")) ∧
      ((Verifies side ↔ Verifies environment) ↔
        (s.settings.tlsVerify = true → Verifies w.environment)) ∧
      (side.get? "DOCKER_CERT_PATH" = environment.get? "DOCKER_CERT_PATH" ↔
        ∀ path, s.settings.certPath = some path → path ≠ "" →
          w.environment.get? "DOCKER_CERT_PATH" = some path) ∧
      ∀ key, key ∉ daemonVariables → side.get? key = environment.get? key := by
  have hne : s.settings.dockerHost ≠ some "" :=
    (Settings.read_eq_ok_iff.mp hread).dockerHost_ne_empty
  have haddress : Route.daemonAddress s.settings w.environment = host := by
    rw [Route.daemonAddress_of_ne_empty _ hne, hhost, Option.getD_some]
  refine ⟨sideEnvironment s.settings w.environment,
    Route.clientEnvironment s.settings w.environment, start_run s w j, ?_, ?_, ?_,
    flag_eq_iff _ _, verifies_iff _ _, certificates_eq_iff _ _, ?_⟩
  · rw [Route.openClient, run_bind_ok run_get, run_bind_ok run_read, hway, hsettings]
  · refine get?_sideEnvironment_host hhost ?_ _
    rintro rfl
    exact hne hhost
  · rw [Route.get?_clientEnvironment_host, haddress]
  · intro key hkey
    exact get?_eq_of_not_mem _ _ hkey

/-! ### A daemon that is trusted by its certificates -/

/-- The environment of a process that names a daemon and how to trust it. -/
def trusting : Record String :=
  [("DOCKER_HOST", "tcp://10.0.0.7:2376"), ("DOCKER_TLS_VERIFY", "1"),
   ("DOCKER_CERT_PATH", "/certs")]

def trustingWorld : World := { World.plain (fun _ => none) with environment := trusting }

theorem inSmallLetters_trusting : Sources.inSmallLetters trusting.reverse =
    [("docker_cert_path", "/certs"), ("docker_tls_verify", "1"),
     ("docker_host", "tcp://10.0.0.7:2376")] := by
  decide +kernel

def secured : Settings := .reaching (some "tcp://10.0.0.7:2376") true (some "/certs")

theorem read_trusting : Settings.read { environment := trusting } = Except.ok secured := by
  have hfind := Sources.find?_of_environment inSmallLetters_trusting
  refine Settings.read_of_silent ?_ ?_ ?_ ?_
  · intro name hname
    rw [hfind, Settings.get?_of_daemonFields (by decide) hname]
    rfl
  · exact Reading.field_eq_ok_iff.mpr (.inr ⟨.text "tcp://10.0.0.7:2376", hfind _, rfl⟩)
  · exact Reading.field_eq_ok_iff.mpr (.inr ⟨.text "1", hfind _, rfl⟩)
  · exact Reading.field_eq_ok_iff.mpr (.inr ⟨.text "/certs", hfind _, rfl⟩)

def sidecar : Sidecar := { settings := secured }

def route : Route := { way := .known .environment, settings := secured }

/-- A process that has the settings in its environment hands on all three variables alike. -/
theorem start_trusting : ∃ side environment,
    (∃ result s' j', start trustingWorld sidecar {} = (result, s', j') ∧
      (Journal.afterCall {} trustingWorld (.startProcess (command "interpreter" "session") side
        .session)).Grows Event.isLogged j') ∧
    Route.openClient trustingWorld route {} =
      call (.clientFor environment 10) trustingWorld route {} ∧
    ∀ key ∈ daemonVariables, side.get? key = environment.get? key := by
  obtain ⟨side, environment, hstart, hopen, hside, hhost, hflag, -, hcert, -⟩ :=
    start_overlay (s := sidecar) (r := route) read_trusting rfl rfl rfl
      trustingWorld {} {}
  refine ⟨side, environment, hstart, hopen, ?_⟩
  simp only [daemonVariables, List.forall_mem_cons]
  refine ⟨hside.trans hhost.symm, hflag.mpr (fun _ => rfl), hcert.mpr ?_, by simp⟩
  rintro path ⟨⟩ -
  rfl

/-- The same settings, given to a process that has none of them in its environment. -/
def given : Record Value :=
  [("docker_host", .text "tcp://10.0.0.7:2376"), ("docker_tls_verify", .bool true),
   ("docker_cert_path", .text "/certs")]

theorem inSmallLetters_given : Sources.inSmallLetters given = given := by
  have hhost : String.ofList (Text.lower "docker_host".toList) = "docker_host" := by
    decide +kernel
  have hflag : String.ofList (Text.lower "docker_tls_verify".toList) = "docker_tls_verify" := by
    decide +kernel
  have hcert : String.ofList (Text.lower "docker_cert_path".toList) = "docker_cert_path" := by
    decide +kernel
  simp only [Sources.inSmallLetters, given, List.map_cons, List.map_nil, hhost, hflag, hcert]

theorem read_given : Settings.read { given } = Except.ok secured := by
  have hfind := Sources.find?_of_given inSmallLetters_given
  refine Settings.read_of_silent ?_ ?_ ?_ ?_
  · intro name hname
    rw [hfind, Settings.get?_of_daemonFields (by simp [given, Settings.daemonFields]) hname]
  · exact Reading.field_eq_ok_iff.mpr (.inr ⟨.text "tcp://10.0.0.7:2376", hfind _, rfl⟩)
  · exact Reading.field_eq_ok_iff.mpr (.inr ⟨.bool true, hfind _, rfl⟩)
  · exact Reading.field_eq_ok_iff.mpr (.inr ⟨.text "/certs", hfind _, rfl⟩)

/-- The side process is led to the daemon that clients verify by their certificates, with neither
the flag nor the certificates. -/
theorem start_untrusting :
    let w := World.plain (fun _ => none)
    Settings.read { given } = Except.ok secured ∧
    ∃ side environment,
      (start w sidecar {}).2.2.events.head? =
        some (.called (.startProcess (command "interpreter" "session") side .session)) ∧
      Route.openClient w route {} = call (.clientFor environment 10) w route {} ∧
      side = [("DOCKER_HOST", "tcp://10.0.0.7:2376")] ∧
      environment = [("DOCKER_HOST", "tcp://10.0.0.7:2376"), ("DOCKER_TLS_VERIFY", "1"),
        ("DOCKER_CERT_PATH", "/certs")] :=
  ⟨read_given, _, _, rfl, rfl, rfl, rfl⟩

end Mooring.Sidecar
