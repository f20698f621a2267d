import Mooring.Proofs.Settings.Fields
import Mooring.Route

/-! The environment for a client, variable by variable. Settings that are made lie over what the
process has; a flag that is off lies over nothing, and what the process has for it shines
through. -/

namespace Mooring

open Mooring.Action

/-! ### Overlays -/

namespace Record

variable {α : Type}

/-- Puts a value over what a table has, if there is one. -/
def overlay (key : String) (value : Option α) (r : Record α) : Record α :=
  match value with
  | some v => r.put key v
  | none => r

@[simp] theorem get?_overlay_self (key : String) (value : Option α) (r : Record α) :
    (r.overlay key value).get? key = value.or (r.get? key) := by
  cases value <;> simp [overlay]

theorem get?_overlay_of_ne {key other : String} (h : key ≠ other) (value : Option α)
    (r : Record α) : (r.overlay key value).get? other = r.get? other := by
  cases value with
  | none => rfl
  | some v => exact get?_put_of_ne h v r

end Record

/-- The variables that tell a client its daemon, and how to trust it. -/
def daemonVariables : List String := ["DOCKER_HOST", "DOCKER_TLS_VERIFY", "DOCKER_CERT_PATH"]

/-- A client from an environment verifies its daemon: any text but the empty one has it do so. -/
def Verifies (environment : Record String) : Prop :=
  ∃ v, environment.get? "DOCKER_TLS_VERIFY" = some v ∧ v ≠ ""

namespace Route

variable (settings : Settings) (environment : Record String)

/-- The environment for a client is the process's own under three values. -/
theorem clientEnvironment_eq :
    clientEnvironment settings environment =
      ((environment.overlay "DOCKER_HOST" (some (daemonAddress settings environment))).overlay
        "DOCKER_TLS_VERIFY" (if settings.tlsVerify then some "1" else none)).overlay
        "DOCKER_CERT_PATH" (settings.certPath.filter (· ≠ "")) := by
  have hflag : (if settings.tlsVerify then
      (environment.put "DOCKER_HOST" (daemonAddress settings environment)).put
        "DOCKER_TLS_VERIFY" "1"
      else environment.put "DOCKER_HOST" (daemonAddress settings environment)) =
      (environment.overlay "DOCKER_HOST" (some (daemonAddress settings environment))).overlay
        "DOCKER_TLS_VERIFY" (if settings.tlsVerify then some "1" else none) := by
    cases settings.tlsVerify <;> rfl
  rw [clientEnvironment, hflag]
  cases settings.certPath with
  | none => rfl
  | some path => by_cases hempty : path = "" <;> simp [Option.filter, hempty, Record.overlay]

theorem get?_clientEnvironment_host :
    (clientEnvironment settings environment).get? "DOCKER_HOST" =
      some (daemonAddress settings environment) := by
  rw [clientEnvironment_eq, Record.get?_overlay_of_ne (by decide),
    Record.get?_overlay_of_ne (by decide), Record.get?_overlay_self]
  rfl

theorem get?_clientEnvironment_flag :
    (clientEnvironment settings environment).get? "DOCKER_TLS_VERIFY" =
      if settings.tlsVerify then some "1" else environment.get? "DOCKER_TLS_VERIFY" := by
  rw [clientEnvironment_eq, Record.get?_overlay_of_ne (by decide), Record.get?_overlay_self,
    Record.get?_overlay_of_ne (by decide)]
  cases settings.tlsVerify <;> rfl

theorem get?_clientEnvironment_certificates :
    (clientEnvironment settings environment).get? "DOCKER_CERT_PATH" =
      (settings.certPath.filter (· ≠ "")).or (environment.get? "DOCKER_CERT_PATH") := by
  rw [clientEnvironment_eq, Record.get?_overlay_self, Record.get?_overlay_of_ne (by decide),
    Record.get?_overlay_of_ne (by decide)]

theorem get?_clientEnvironment_of_not_mem {key : String} (h : key ∉ daemonVariables) :
    (clientEnvironment settings environment).get? key = environment.get? key := by
  simp only [daemonVariables, List.mem_cons, List.not_mem_nil, or_false, not_or] at h
  obtain ⟨hhost, hflag, hcert⟩ := h
  rw [clientEnvironment_eq, Record.get?_overlay_of_ne (Ne.symm hcert),
    Record.get?_overlay_of_ne (Ne.symm hflag), Record.get?_overlay_of_ne (Ne.symm hhost)]

theorem verifies_clientEnvironment_iff :
    Verifies (clientEnvironment settings environment) ↔
      settings.tlsVerify = true ∨ Verifies environment := by
  cases hflag : settings.tlsVerify <;> simp [Verifies, get?_clientEnvironment_flag, hflag]

variable {settings}

/-- The configured address of a daemon comes first. -/
theorem daemonAddress_of_ne_empty (h : settings.dockerHost ≠ some "") :
    daemonAddress settings environment =
      settings.dockerHost.getD ((environment.get? "DOCKER_HOST").getD "") := by
  rw [daemonAddress]
  cases hhost : settings.dockerHost with
  | none => rfl
  | some host =>
    have hne : host ≠ "" := fun hempty => h (by rw [hhost, hempty])
    exact if_neg hne

/-- What a client is opened with over the environment. The address is the configured one, or else
the process's; the directory of certificates is the configured one unless that is empty; all other
variables are the process's. The daemon is verified if that is set, but not only then: it is as well
if the process has any text for the flag, even one that stands for off. -/
theorem openClient_overlay {r : Route} (hway : r.way = .known .environment) {s : Sources}
    (hread : Settings.read s = Except.ok r.settings) (w : World) (j : Journal) :
    ∃ environment,
      openClient w r j = call (.clientFor environment r.settings.probeTimeout) w r j ∧
      (∀ host, r.settings.dockerHost = some host →
        environment.get? "DOCKER_HOST" = some host) ∧
      (r.settings.dockerHost = none →
        environment.get? "DOCKER_HOST" = some ((w.environment.get? "DOCKER_HOST").getD "")) ∧
      (∀ path, r.settings.certPath = some path → path ≠ "" →
        environment.get? "DOCKER_CERT_PATH" = some path) ∧
      (r.settings.certPath = none ∨ r.settings.certPath = some "" →
        environment.get? "DOCKER_CERT_PATH" = w.environment.get? "DOCKER_CERT_PATH") ∧
      (∀ key, key ∉ daemonVariables → environment.get? key = w.environment.get? key) ∧
      (Verifies environment ↔ r.settings.tlsVerify = true ∨ Verifies w.environment) ∧
      ((Verifies environment ↔ r.settings.tlsVerify = true) ↔
        r.settings.tlsVerify = true ∨ ¬ Verifies w.environment) ∧
      ∀ v, s.find? "docker_tls_verify" = some (.text v) →
        w.environment.get? "DOCKER_TLS_VERIFY" = some v →
        ((Verifies environment ↔ r.settings.tlsVerify = true) ↔
          v = "" ∨ Rule.switch (.text v) = .ok true) := by
  have hfrom : r.settings.ReadFrom s := Settings.read_eq_ok_iff.mp hread
  have haddress := daemonAddress_of_ne_empty w.environment hfrom.dockerHost_ne_empty
  have hverifies := verifies_clientEnvironment_iff r.settings w.environment
  refine ⟨clientEnvironment r.settings w.environment, ?_, ?_, ?_, ?_, ?_, ?_, hverifies, ?_, ?_⟩
  · rw [openClient, run_bind_ok run_get, run_bind_ok run_read, hway]
  · intro host hhost
    rw [get?_clientEnvironment_host, haddress, hhost, Option.getD_some]
  · intro hhost
    rw [get?_clientEnvironment_host, haddress, hhost, Option.getD_none]
  · intro path hpath hne
    rw [get?_clientEnvironment_certificates, hpath]
    simp [Option.filter, hne]
  · intro hpath
    rw [get?_clientEnvironment_certificates]
    rcases hpath with hpath | hpath <;> simp [hpath, Option.filter]
  · intro key hkey
    exact get?_clientEnvironment_of_not_mem _ _ hkey
  · rw [hverifies]
    by_cases hflag : r.settings.tlsVerify = true <;> simp [hflag]
  · intro v hfind hv
    have hw : Verifies w.environment ↔ v ≠ "" := by simp [Verifies, hv]
    have hflag : Rule.switch (.text v) = .ok r.settings.tlsVerify := by
      rcases Reading.field_eq_ok_iff.mp hfrom.tlsVerify with ⟨hnone, -⟩ | ⟨v', hv', hswitch⟩
      · rw [hfind] at hnone
        cases hnone
      · rw [hfind] at hv'
        cases hv'
        exact hswitch
    rw [hverifies, hw, hflag]
    cases r.settings.tlsVerify <;> simp

/-- A process that names a daemon, and no more. -/
def namingWorld : World :=
  { World.plain (fun _ => none) with environment := [("DOCKER_HOST", "tcp://10.0.0.7:2375")] }

def unset : Route := { way := .known .environment, settings := .reaching none false none }

/-- Where nothing is set, the process's daemon is reached, and not verified. -/
theorem openClient_unset : ∃ environment,
    openClient namingWorld unset {} = call (.clientFor environment 10) namingWorld unset {} ∧
    environment.get? "DOCKER_HOST" = some "tcp://10.0.0.7:2375" ∧ ¬ Verifies environment := by
  have hread : Settings.read {} = Except.ok unset.settings :=
    Settings.read_of_silent (fun _ _ => rfl) rfl rfl rfl
  obtain ⟨environment, hopen, -, hhost, -, -, -, hverifies, -⟩ :=
    openClient_overlay rfl hread namingWorld {}
  refine ⟨environment, hopen, hhost rfl, ?_⟩
  rw [hverifies]
  rintro (h | ⟨v, h, -⟩)
  · cases h
  · cases h

/-- The environment of a process that names a daemon and switches its verification off. -/
def inherited : Record String :=
  [("DOCKER_HOST", "tcp://10.0.0.7:2375"), ("DOCKER_TLS_VERIFY", "0")]

def inheritingWorld : World := { World.plain (fun _ => none) with environment := inherited }

theorem inSmallLetters_inherited : Sources.inSmallLetters inherited.reverse =
    [("docker_tls_verify", "0"), ("docker_host", "tcp://10.0.0.7:2375")] := by
  decide +kernel

/-- The settings that are read from this environment. -/
theorem read_inherited : Settings.read { environment := inherited } =
    Except.ok (.reaching (some "tcp://10.0.0.7:2375") false none) := by
  have hfind := Sources.find?_of_environment inSmallLetters_inherited
  refine Settings.read_of_silent ?_ ?_ ?_ ?_
  · intro name hname
    rw [hfind, Settings.get?_of_daemonFields (by decide) hname]
    rfl
  · exact Reading.field_eq_ok_iff.mpr (.inr ⟨.text "tcp://10.0.0.7:2375", hfind _, rfl⟩)
  · exact Reading.field_eq_ok_iff.mpr (.inr ⟨.text "0", hfind _, rfl⟩)
  · exact Reading.field_eq_ok_iff.mpr (.inl ⟨hfind _, rfl⟩)

def inheriting : Route where
  way := .known .environment
  settings := .reaching (some "tcp://10.0.0.7:2375") false none

/-- The settings take the text of the process for off, and still the client is opened with it, which
takes it for on. -/
theorem verifies_inheriting :
    Settings.read { environment := inheritingWorld.environment } =
      Except.ok inheriting.settings ∧
    inheriting.settings.tlsVerify = false ∧
    ∃ environment, openClient inheritingWorld inheriting {} =
        call (.clientFor environment 10) inheritingWorld inheriting {} ∧
      Verifies environment :=
  ⟨read_inherited, rfl, clientEnvironment inheriting.settings inherited, rfl, "0", rfl, by decide⟩

end Route

end Mooring
