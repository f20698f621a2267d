import Mooring.Proofs.Address.Host
import Mooring.Proofs.Plain
import Mooring.Proofs.Route.Overlay
import Mooring.Proofs.Route.Reach

/-! Hosts of the daemons that the environment names. The address is the configured one, whatever the
process says; the host of a remote daemon is the one in its URL, and that of a local daemon is this
machine. -/

namespace Mooring.Route

open Address Text Mooring.Action

variable {w : World} {r : Route}

/-! ### Hosts of URLs -/

theorem urlHost_remote (u : RemoteUrl) :
    urlHost u.text.toList = .ok (String.ofList (asciiLower u.place.host)) := by
  have hlocal : (u.scheme.chars == "unix".toList || u.scheme.chars == "npipe".toList) = false := by
    rw [u.scheme.isLocal_iff, u.remote]
  have hsome : (asciiLower u.place.host).isEmpty = false := by
    have hne := u.place.host_ne_nil
    simpa [asciiLower] using hne
  rw [urlHost, u.readUrl_text]
  simp only [bind, Except.bind, hlocal, u.host_authority, hsome]
  rfl

theorem urlHost_local (u : LocalUrl) : urlHost u.text.toList = .ok "localhost" := by
  obtain ⟨authority, hread⟩ := u.readUrl_text
  have hlocal : (u.scheme.chars == "unix".toList || u.scheme.chars == "npipe".toList) = true := by
    rw [u.scheme.isLocal_iff, u.isLocal]
  rw [urlHost, hread]
  simp only [bind, Except.bind, hlocal]
  rfl

/-! ### Hosts of routes -/

/-- The host that a route finds, and answers once it is probed. -/
def HasHost (w : World) (r : Route) (host : String) : Prop :=
  (∀ j, findHost w r j = (.ok (some host), r, j)) ∧
    ∀ k r' j j', probe w r j = (.ok k, r', j') → r'.host = some host

theorem hasHost_of_urlHost (hway : r.way = .known .environment) {host : String}
    (h : urlHost (daemonAddress r.settings w.environment).toList = .ok host) :
    HasHost w r host := by
  have hfind : ∀ j, findHost w r j = (.ok (some host), r, j) := by
    intro j
    rw [findHost, run_bind_ok run_get, run_bind_ok run_read, hway]
    simp only [h]
    rfl
  refine ⟨hfind, fun k r' j j' hprobe => ?_⟩
  obtain ⟨r₀, j₀, r₁, j₁, found, hopen, hgreet, rfl, -⟩ := probe_eq_ok hprobe
  have hkept : r₀ = r := by
    rw [openClient, run_bind_ok run_get, run_bind_ok run_read, hway] at hopen
    simp only [run_call] at hopen
    exact ((Prod.mk.inj (Prod.mk.inj hopen).2).1).symm
  rcases run_bind_cases hgreet with ⟨u, r₂, j₂, hping, hgreet⟩ | ⟨fault, -, hgreet⟩
  · have hkept' : r₂ = r := by
      rw [onClient, run_call, hkept] at hping
      exact ((Prod.mk.inj (Prod.mk.inj hping).2).1).symm
    rw [hkept', hfind] at hgreet
    cases hgreet
    rfl
  · cases hgreet

/-- The host of the daemon that the environment names. A configured address is taken, whatever the
process says, and the process's only where none is configured. The host of a URL with a user, a port
and a path, or without, is the one it was put together from, in small letters and without brackets;
a local URL is on this machine. -/
theorem hosts_of_address (hway : r.way = .known .environment) {s : Sources}
    (hread : Settings.read s = Except.ok r.settings) (w : World) :
    (∀ host, r.settings.dockerHost = some host →
        ∀ environment, daemonAddress r.settings environment = host) ∧
      (r.settings.dockerHost = none → daemonAddress r.settings w.environment =
        (w.environment.get? "DOCKER_HOST").getD "") ∧
      (∀ u : RemoteUrl, daemonAddress r.settings w.environment = u.text →
        HasHost w r (String.ofList (asciiLower u.place.host))) ∧
      ∀ u : LocalUrl, daemonAddress r.settings w.environment = u.text →
        HasHost w r "localhost" := by
  have hfrom : r.settings.ReadFrom s := Settings.read_eq_ok_iff.mp hread
  refine ⟨?_, ?_, ?_, ?_⟩
  · intro host hhost environment
    rw [daemonAddress_of_ne_empty environment hfrom.dockerHost_ne_empty, hhost, Option.getD_some]
  · intro hhost
    rw [daemonAddress_of_ne_empty w.environment hfrom.dockerHost_ne_empty, hhost, Option.getD_none]
  · intro u hu
    have hhost := urlHost_remote u
    rw [← hu] at hhost
    exact hasHost_of_urlHost hway hhost
  · intro u hu
    have hhost := urlHost_local u
    rw [← hu] at hhost
    exact hasHost_of_urlHost hway hhost

/-- A user, an address around a gap, a port and a path. -/
def crowdedUrl : RemoteUrl where
  scheme := .https
  user := some ⟨"me:secret".toList, List.all_eq_true.mp rfl⟩
  place := .literal (.gapped [⟨"2001".toList, rfl⟩, ⟨"DB8".toList, rfl⟩]
    ⟨[⟨"A".toList, rfl⟩], none⟩ (by decide))
  port := some ⟨"2376".toList, List.all_eq_true.mp rfl⟩
  path := some ⟨"v1.24?a@b:c#d".toList, List.all_eq_true.mp rfl⟩
  remote := rfl

/-- The daemon that `namingWorld` names. -/
def namedUrl : RemoteUrl where
  scheme := .tcp
  user := none
  place := .named ⟨"10.0.0.7".toList, List.all_eq_true.mp rfl⟩ (by decide)
  port := some ⟨"2375".toList, List.all_eq_true.mp rfl⟩
  path := none
  remote := rfl

def crowdedHost : String := "https://me:secret@[2001:DB8::A]:2376/v1.24?a@b:c#d"

def crowded : Route where
  way := .known .environment
  settings := .reaching (some crowdedHost) false none

theorem read_crowded : Settings.read { given := [("docker_host", .text crowdedHost)] } =
    Except.ok crowded.settings := by
  have hname : String.ofList (lower "docker_host".toList) = "docker_host" := by decide +kernel
  have hgiven : Sources.inSmallLetters [("docker_host", Value.text crowdedHost)] =
      [("docker_host", Value.text crowdedHost)] := by
    simp only [Sources.inSmallLetters, List.map_cons, List.map_nil, hname]
  have hfind := Sources.find?_of_given hgiven
  refine Settings.read_of_silent ?_ ?_ ?_ ?_
  · intro name hname
    rw [hfind, Settings.get?_of_daemonFields (by simp [Settings.daemonFields]) hname]
  · exact Reading.field_eq_ok_iff.mpr (.inr ⟨.text crowdedHost, hfind _, rfl⟩)
  · exact Reading.field_eq_ok_iff.mpr (.inl ⟨hfind _, rfl⟩)
  · exact Reading.field_eq_ok_iff.mpr (.inl ⟨hfind _, rfl⟩)

/-- The configured daemon comes before the one that the process names. -/
theorem hosts_crowded :
    HasHost namingWorld crowded "2001:db8::a" ∧ HasHost namingWorld unset "10.0.0.7" := by
  have hunset : Settings.read {} = Except.ok unset.settings :=
    Settings.read_of_silent (fun _ _ => rfl) rfl rfl rfl
  obtain ⟨haddress, -, hremote, -⟩ := hosts_of_address rfl read_crowded namingWorld
  obtain ⟨-, haddress', hremote', -⟩ := hosts_of_address rfl hunset namingWorld
  have hcrowded := hremote crowdedUrl ((haddress crowdedHost rfl _).trans (by decide +kernel))
  have hnamed := hremote' namedUrl ((haddress' rfl).trans (by decide +kernel))
  exact ⟨hcrowded, hnamed⟩

end Mooring.Route
