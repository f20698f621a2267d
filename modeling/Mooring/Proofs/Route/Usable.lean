import Mooring.Proofs.Route.Container
import Mooring.Proofs.Route.Host
import Mooring.Proofs.Route.MachineLife
import Mooring.Proofs.Text.Case
import Mooring.Proofs.Text.Cuts
import Mooring.Proofs.Text.Trim

/-! Hosts that can be used: those that are not empty and have no blank at their ends. A route
answers the host that its probe has found, and where that comes from a file it is always one of
them. Where it comes from a URL or from the output of a command, it is what was found there, of
whatever use. -/

namespace Mooring

open Text Address Mooring.Action

/-- A host that there can be: it is not empty, and no blank stands at its ends. -/
def Usable (host : String) : Prop := host ≠ "" ∧ trim host.toList = host.toList

theorem usable_ofList_iff {cs : List Char} :
    Usable (String.ofList cs) ↔ cs ≠ [] ∧ trim cs = cs := by
  rw [Usable, String.toList_ofList, ← String.ofList_nil, ne_eq, String.ofList_inj]

theorem usable_of_unblank {cs : List Char} (hne : cs ≠ []) (h : ∀ c ∈ cs, isBlank c = false) :
    Usable (String.ofList cs) := usable_ofList_iff.mpr ⟨hne, trim_of_unblank h⟩

theorem usable_localhost : Usable "localhost" := ⟨by decide, by decide +kernel⟩

/-- What is trimmed is usable unless it was blank. -/
theorem usable_trim_iff {cs : List Char} :
    Usable (String.ofList (trim cs)) ↔ ∃ c ∈ cs, isBlank c = false := by
  rw [usable_ofList_iff, and_iff_left (trim_trim cs), ne_eq, trim_eq_nil_iff]
  simp

/-- The digits and points of an address are no blanks. -/
theorem Address.V4.usable (a : V4) : Usable a.text := by
  have hdigits (n : UInt8) : ∀ c ∈ Nat.toDigits 10 n.toNat, isBlank c = false := by
    intro c hc
    have hdigit : c.isDigit = true := Nat.isDigit_of_mem_toDigits (by decide) (by decide) hc
    have hrange : 48 ≤ c.toNat ∧ c.toNat ≤ 57 := by
      simpa [Char.isDigit, UInt32.le_iff_toNat_le] using hdigit
    simp only [isBlank, Bool.or_eq_false_iff, Bool.and_eq_false_iff, decide_eq_false_iff_not,
      beq_eq_false_iff_ne]
    omega
  have hpoint : isBlank '.' = false := rfl
  rw [← String.ofList_toList (s := a.text), a.toList_text]
  refine usable_of_unblank (List.append_ne_nil_of_right_ne_nil _ (List.cons_ne_nil _ _)) ?_
  simp only [List.forall_mem_append, List.forall_mem_cons]
  exact ⟨hdigits _, hpoint, hdigits _, hpoint, hdigits _, hpoint, hdigits _⟩

/-! ### Hosts in URLs -/

namespace Address

theorem takeScheme_subset (cs : List Char) : (takeScheme cs).2 ⊆ cs := by
  unfold takeScheme
  split
  · next scheme rest hcut =>
    split
    · exact (subset_of_cutFirst hcut).2
    · exact List.Subset.refl _
  · exact List.Subset.refl _

/-- The authority of a URL is part of it. -/
theorem authority_subset {cs : List Char} {url : Url} (h : readUrl cs = .ok url) :
    url.authority ⊆ cs := by
  unfold readUrl at h
  simp only at h
  split at h
  · next rest hrest =>
    cases hcheck : checkAuthority (rest.takeWhile (fun c => !isAuthorityEnd c)) with
    | error fault =>
      rw [hcheck] at h
      cases h
    | ok _ =>
      rw [hcheck] at h
      cases h
      intro c hc
      have hbehind : c ∈ '/' :: '/' :: rest :=
        List.mem_cons_of_mem _ (List.mem_cons_of_mem _ (List.takeWhile_subset _ hc))
      rw [← hrest] at hbehind
      have hfiltered := takeScheme_subset _ hbehind
      exact (List.dropWhile_sublist isLeadIn).mem (List.mem_of_mem_filter hfiltered)
  · cases h
    exact List.nil_subset _

/-- No blank comes into the host that was not in the authority. -/
theorem not_isBlank_host {url : Url} (h : ∀ c ∈ url.authority, isBlank c = false) :
    ∀ c ∈ url.host, isBlank c = false := by
  unfold Url.host
  extract_lets place name
  have hplace : ∀ c ∈ place, isBlank c = false := fun c hc => h c (afterLast_subset _ _ hc)
  have hname : ∀ c ∈ name, isBlank c = false := by
    simp only [name]
    split
    · next hcut => exact fun c hc => hplace c ((subset_of_cutFirst hcut).2 (before_subset _ _ hc))
    · exact fun c hc => hplace c (before_subset _ _ hc)
  split
  · next host zone hcut =>
    obtain ⟨hhost, hzone⟩ := subset_of_cutFirst hcut
    rw [List.forall_mem_append, List.forall_mem_cons]
    exact ⟨not_isBlank_lower (fun c hc => hname c (hhost hc)), rfl,
      fun c hc => hname c (hzone hc)⟩
  · exact not_isBlank_lower hname

end Address

namespace Route

variable {w : World} {r r' : Route} {kind : RouteKind} {k : Client} {j j' : Journal}
  {found : Option String}

/-! ### What is found -/

/-- A route that was probed keeps what was found, by the way and the settings that it has. -/
theorem found_of_probe (h : probe w r j = (.ok k, r', j')) : ∃ r₀ j₀ r₁ j₁,
    r₀.way = r.way ∧ r₀.settings = r.settings ∧ findHost w r₀ j₀ = (.ok r'.host, r₁, j₁) := by
  obtain ⟨r₀, j₀, r₁, j₁, host, hopen, hgreet, rfl, -⟩ := probe_eq_ok h
  have hkept := (endsOpening_openClient w r j).kept
  rw [hopen, bare_eq_iff] at hkept
  rcases run_bind_cases hgreet with ⟨u, r₂, j₂, hping, hfind⟩ | ⟨fault, -, hgreet⟩
  · obtain rfl : r₂ = r₀ := by
      rw [onClient, run_call] at hping
      exact (Prod.mk.inj (Prod.mk.inj hping).2).1.symm
    exact ⟨r₂, j₂, r₁, j₁, hkept.1, hkept.2.1, hfind⟩
  · cases hgreet

theorem found_of_pipe (hway : r.way = .known .namedPipe)
    (h : findHost w r j = (.ok found, r', j')) : found = some "localhost" := by
  rw [findHost, run_bind_ok run_get, run_bind_ok run_read, hway] at h
  cases h
  rfl

/-- A gateway that is found is an address. -/
theorem address_of_defaultGateway {σ : Type} {path gateway : String} {s s' : σ}
    (h : defaultGateway path w s j = (.ok (some gateway), s', j')) :
    ∃ a : V4, gateway = a.text := by
  cases hread : w.fileBytes path with
  | error problem =>
    rw [defaultGateway, run_bind_ok run_read, hread] at h
    simp only at h
    split at h
    · cases h
    · cases h
  | ok bytes =>
    rw [defaultGateway_of_bytes hread] at h
    cases hdecode : decodeFile bytes with
    | error fault =>
      rw [hdecode] at h
      cases h
    | ok cs =>
      have hfinds := finds_findSome? ((fileLines cs).drop 1)
      rw [hdecode] at h
      have hfound : tableGateway? cs = some gateway :=
        Except.ok.inj (Prod.mk.inj h).1
      rw [← tableGateway?, hfound] at hfinds
      cases hfinds with
      | gateway hls hbefore hline => exact ⟨_, rfl⟩

theorem found_of_socket (hway : r.way = .known .unixSocket)
    (h : findHost w r j = (.ok found, r', j')) :
    found = some "localhost" ∨ ∃ a : V4, found = some a.text := by
  rw [findHost, run_bind_ok run_get, run_bind_ok run_read, hway] at h
  simp only at h
  split at h
  · obtain ⟨gateway, r₁, j₁, hgateway, h⟩ := exists_of_run_bind_ok h
    cases gateway with
    | none =>
      cases h
      exact .inl rfl
    | some gateway =>
      cases h
      obtain ⟨a, rfl⟩ := address_of_defaultGateway hgateway
      exact .inr ⟨a, rfl⟩
  · cases h
    exact .inl rfl

/-- Whether a URL is one for this machine alone, or names no host. -/
def IsHere (url : Url) : Prop :=
  url.scheme = "unix".toList ∨ url.scheme = "npipe".toList ∨ url.host = []

theorem urlHost_eq_ok {address : List Char} {host : String} (h : urlHost address = .ok host) :
    ∃ url, readUrl address = .ok url ∧ (IsHere url ∧ host = "localhost" ∨
      ¬ IsHere url ∧ host = String.ofList url.host) := by
  rw [urlHost] at h
  cases hread : readUrl address with
  | error fault =>
    rw [hread] at h
    cases h
  | ok url =>
    rw [hread] at h
    refine ⟨url, rfl, ?_⟩
    simp only [bind, Except.bind] at h
    split at h
    · next hhere =>
      cases h
      refine .inl ⟨?_, rfl⟩
      simpa [IsHere, or_assoc] using hhere
    · next hhere =>
      cases h
      refine .inr ⟨?_, rfl⟩
      simpa [IsHere, or_assoc] using hhere

theorem found_of_address (hway : r.way = .known .environment)
    (h : findHost w r j = (.ok found, r', j')) : ∃ host, found = some host ∧
      urlHost (daemonAddress r.settings w.environment).toList = .ok host := by
  rw [findHost, run_bind_ok run_get, run_bind_ok run_read, hway] at h
  cases hhost : urlHost (daemonAddress r.settings w.environment).toList with
  | error fault =>
    simp only [hhost] at h
    cases h
  | ok host =>
    simp only [hhost] at h
    cases h
    exact ⟨host, rfl, rfl⟩

theorem usable_of_urlHost {address : List Char} {host : String} (h : urlHost address = .ok host) :
    ∃ url, readUrl address = .ok url ∧ (Usable host ↔ IsHere url ∨ trim url.host = url.host) ∧
      ((∀ c ∈ address, isBlank c = false) → Usable host) := by
  obtain ⟨url, hread, ⟨hhere, rfl⟩ | ⟨hhere, rfl⟩⟩ := urlHost_eq_ok h
  · exact ⟨url, hread, iff_of_true usable_localhost (.inl hhere), fun _ => usable_localhost⟩
  · have hne : url.host ≠ [] := fun hnil => hhere (.inr (.inr hnil))
    have husable : Usable (String.ofList url.host) ↔ IsHere url ∨ trim url.host = url.host := by
      rw [usable_ofList_iff, and_iff_right hne, or_iff_right hhere]
    refine ⟨url, hread, husable, fun hunblank => husable.mpr (.inr (trim_of_unblank ?_))⟩
    exact not_isBlank_host (fun c hc => hunblank c (authority_subset hread hc))

/-! ### Probed routes -/

theorem hostAddress_of_host {σ : Type} {host : String} (h : r.host = some host) (w : World) (s : σ)
    (j : Journal) : hostAddress r w s j = (.ok host, s, j) := by
  rw [hostAddress, h]
  rfl

/-- The host that a probed route of a known way answers. Over a local socket or pipe it is always
usable. Over the address of a daemon it is unless the host in its URL begins or ends with a blank;
so it is over any address without blanks. Over a virtual machine it is what the machine's address
command has printed, without the blanks around it: usable exactly if anything but blanks was
printed, and otherwise empty, for such an output passes as well. -/
theorem usable_of_probe (hway : r.way = .known kind) (h : probe w r j = (.ok k, r', j')) :
    ∃ host, (∀ {σ : Type} (s : σ) (i : Journal), hostAddress r' w s i = (.ok host, s, i)) ∧
      (kind = .unixSocket ∨ kind = .namedPipe → Usable host) ∧
      (kind = .environment → ∃ url,
        readUrl (daemonAddress r.settings w.environment).toList = .ok url ∧
        (Usable host ↔ IsHere url ∨ trim url.host = url.host) ∧
        ((∀ c ∈ (daemonAddress r.settings w.environment).toList, isBlank c = false) →
          Usable host)) ∧
      (kind = .dockerMachine → ∃ steps name address, j'.steps w = j.steps w ++ steps ∧
        .asked (.runCommand (addressOf name) r.settings.probeTimeout) (.ok address) ∈ steps ∧
        address.code = 0 ∧ host = trimmed address ∧ trim host.toList = host.toList ∧
        (Usable host ↔ ∃ c ∈ address.output.toList, isBlank c = false)) := by
  obtain ⟨r₀, j₀, r₁, j₁, hway₀, hsettings, hfind⟩ := found_of_probe h
  rw [← hway₀] at hway
  cases kind with
  | namedPipe =>
    have hhost := found_of_pipe hway hfind
    exact ⟨_, hostAddress_of_host hhost w, fun _ => usable_localhost, nofun, nofun⟩
  | unixSocket =>
    rcases found_of_socket hway hfind with hhost | ⟨a, hhost⟩
    · exact ⟨_, hostAddress_of_host hhost w, fun _ => usable_localhost, nofun, nofun⟩
    · exact ⟨_, hostAddress_of_host hhost w, fun _ => a.usable, nofun, nofun⟩
  | environment =>
    obtain ⟨host, hhost, hurl⟩ := found_of_address hway hfind
    rw [hsettings] at hurl
    exact ⟨host, hostAddress_of_host hhost w, nofun, fun _ => usable_of_urlHost hurl, nofun⟩
  | dockerMachine =>
    rw [hway₀] at hway
    obtain ⟨steps, hsteps, name, front, url, store, address, answer, -, -, -, hcode, rfl, rfl⟩ :=
      reaches_of_probe hway h
    refine ⟨trimmed address, hostAddress_of_host rfl w, nofun, nofun, fun _ => ?_⟩
    refine ⟨_, name, address, hsteps, ?_, hcode, rfl, ?_, usable_trim_iff⟩
    · simp [greetingSteps]
    · rw [trimmed, String.toList_ofList, trim_trim]

/-- A world in which the address command of a machine prints this. -/
def lodge (output : String) : World :=
  { World.plain (fun _ => none) with
    answer := fun _ c =>
      match c with
      | .runCommand [_, "url", _] _ =>
        { result := .ok { output := "tcp://10.0.0.5:2376\n", complaint := "", code := 0 } }
      | .runCommand [_, "inspect", _, _, _] _ =>
        { result := .ok { output := "/machines/dev\n", complaint := "", code := 0 } }
      | .runCommand [_, "ip", _] _ => { result := .ok { output, complaint := "", code := 0 } }
      | c => { result := .ok c.plain } }

def guest : Route where
  way := .known .dockerMachine
  settings := { Settings.plain with machineName := some "dev" }

/-- A guest of a machine that has an address. -/
theorem usable_guest : ∃ k r' j' address, probe (lodge "10.0.0.5\n") guest {} = (.ok k, r', j') ∧
    hostAddress r' (lodge "10.0.0.5\n") () j' = (.ok (trimmed address), (), j') ∧
    trimmed address = "10.0.0.5" ∧ Usable (trimmed address) := by
  obtain ⟨k, r', j', hprobe, hhost⟩ : ∃ k r' j',
      probe (lodge "10.0.0.5\n") guest {} = (.ok k, r', j') ∧ r'.host = some "10.0.0.5" :=
    ⟨_, _, _, rfl, by decide +kernel⟩
  obtain ⟨host, hanswers, -, -, hmachine⟩ := usable_of_probe rfl hprobe
  obtain ⟨_, _, address, -, -, -, rfl, htrim, -⟩ := hmachine rfl
  have hsame : (Except.ok (trimmed address) : Except Fault String) = .ok "10.0.0.5" :=
    (Prod.mk.inj ((hanswers () j').symm.trans (hostAddress_of_host hhost _ () j'))).1
  have haddress : trimmed address = "10.0.0.5" := Except.ok.inj hsame
  refine ⟨k, r', j', address, hprobe, hanswers () j', haddress, ?_, htrim⟩
  rw [haddress]
  decide

/-- The machine's address command prints a line end alone, and the probe succeeds. -/
theorem unusable_guest : ∃ k r' j', probe (lodge "\n") guest {} = (.ok k, r', j') ∧
    hostAddress r' (lodge "\n") () j' = (.ok "", (), j') ∧ ¬ Usable "" :=
  ⟨_, _, _, rfl, hostAddress_of_host (by decide +kernel) _ _ _, fun h => h.1 rfl⟩

end Route
end Mooring
