import Mooring.Proofs.Address.Gateway
import Mooring.Proofs.Route.Interrupt

/-! Probes of a local socket from inside a container. The host is reached through the default
gateway then, and the probe looks for it in the routing table. That the table cannot be opened is
put aside, and so is whatever a line of it says; but a table that is no text at all ends the probe
of a daemon that has answered. -/

namespace Mooring

open Text Address Mooring.Action

variable {w : World}

/-! ### Routing tables -/

/-- What there is to be read of a file: a text, or trouble of the system with opening it. -/
inductive Legible : Except Problem (List UInt8) → Prop
  | text (cs : List Char) : Legible (.ok (encode cs))
  | unopened {problem : Problem} (h : problem.isOsTrouble = true) : Legible (.error problem)

theorem not_legible_of_fault {bytes : List UInt8} {fault : Utf8Fault}
    (h : decodeFile bytes = .error fault) : ¬ Legible (.ok bytes) := by
  intro hlegible
  cases hlegible with
  | text cs =>
    rw [decodeFile_eq_ok_iff.mpr rfl] at h
    cases h

theorem legible_or_fault {content : Except Problem (List UInt8)}
    (h : ∀ problem, content = .error problem → problem.isOsTrouble = true) :
    Legible content ∨ ∃ bytes fault, content = .ok bytes ∧ decodeFile bytes = .error fault := by
  cases content with
  | error problem => exact .inl (.unopened (h problem rfl))
  | ok bytes =>
    cases hdecode : decodeFile bytes with
    | error fault => exact .inr ⟨bytes, fault, rfl, hdecode⟩
    | ok cs =>
      rw [decodeFile_eq_ok_iff.mp hdecode]
      exact .inl (.text cs)

namespace Address

variable {path : String}

theorem defaultGateway_of_legible (h : Legible (w.fileBytes path)) :
    ∃ found, ∀ (σ : Type) (s : σ) (j : Journal),
      ∃ j', defaultGateway path w s j = (.ok found, s, j') := by
  generalize hcontent : w.fileBytes path = content at h
  cases h with
  | text cs => exact ⟨tableGateway? cs, fun σ s j => ⟨j, defaultGateway_of_text hcontent s j⟩⟩
  | unopened htrouble =>
    refine ⟨none, fun σ s j => ?_⟩
    rw [defaultGateway, run_bind_ok run_read, hcontent]
    simp only [htrouble, if_true]
    exact ⟨_, rfl⟩

theorem defaultGateway_of_fault {bytes : List UInt8} {fault : Utf8Fault}
    (hcontent : w.fileBytes path = .ok bytes) (h : decodeFile bytes = .error fault) {σ : Type}
    (s : σ) (j : Journal) :
    defaultGateway path w s j = (.error (.of (.encoding fault)), s, j) := by
  rw [defaultGateway_of_bytes hcontent, h]
  rfl

end Address

namespace Route

variable {r r' : Route} {j j' : Journal}

/-! ### Greetings -/

section Inside

variable (hway : r.way = .known .unixSocket) (hmark : w.fileExists containerMark = true)

include hway hmark

theorem findHost_of_found {found : Option String}
    (h : defaultGateway routingTable w r j = (.ok found, r', j')) :
    findHost w r j = (.ok (some (found.getD "localhost")), r', j') := by
  rw [findHost, run_bind_ok run_get, run_bind_ok run_read, hway]
  simp only [hmark, if_true]
  rw [run_bind_ok h]
  cases found <;> rfl

theorem findHost_of_fault {fault : Fault}
    (h : defaultGateway routingTable w r j = (.error fault, r', j')) :
    findHost w r j = (.error fault, r', j') := by
  rw [findHost, run_bind_ok run_get, run_bind_ok run_read, hway]
  simp only [hmark, if_true]
  rw [run_bind_error h]

variable {k : Client} {j₁ j₂ : Journal} (hopen : openClient w r j = (.ok k, r, j₁))
  (hping : onClient k .ping w r j₁ = (.ok (), r, j₂))

include hopen hping

/-! ### Probes -/

theorem probe_of_legible (h : Legible (w.fileBytes routingTable)) :
    ∃ found, (∀ (σ : Type) (s : σ) (i : Journal),
        ∃ i', defaultGateway routingTable w s i = (.ok found, s, i')) ∧
      ∃ j', probe w r j =
        (.ok k, { r with held := some k, host := some (found.getD "localhost") }, j') := by
  obtain ⟨found, hfound⟩ := defaultGateway_of_legible h
  obtain ⟨j₃, hgateway⟩ := hfound Route r j₂
  have hgreet : greet k w r j₁ = (.ok (some (found.getD "localhost")), r, j₃) := by
    rw [greet, run_bind_ok hping, findHost_of_found hway hmark hgateway]
  have hreach : reach w r j = (.ok (k, some (found.getD "localhost")), r, j₃) := by
    rw [reach, run_bind_ok hopen, run_bind_ok hgreet]
    rfl
  exact ⟨found, hfound, _, probe_of_reached hreach⟩

/-- The fault ends the probe, unless closing its client is interrupted. -/
theorem probe_of_fault {bytes : List UInt8} {fault : Utf8Fault}
    (hcontent : w.fileBytes routingTable = .ok bytes) (h : decodeFile bytes = .error fault) :
    ∃ ending j', probe w r j = (.error ending, r, j') ∧ j.Leaves w none j' ∧
      (ending = .of (.encoding fault) ∨ ending.problem.isException = false) := by
  have hgreet : greet k w r j₁ = (.error (.of (.encoding fault)), r, j₂) := by
    rw [greet, run_bind_ok hping]
    exact findHost_of_fault hway hmark (defaultGateway_of_fault hcontent h r j₂)
  -- the client is open when the search fails, and closing it may be cut off in turn
  have hleaves := (leaves_of_opened hopen).followed_aside ((standsAside_greet k).aside hgreet)
  have hf : (Fault.of (.encoding fault)).problem.isException = true := rfl
  obtain ⟨result, j₃, hclose, haside, hfault⟩ := closeQuietly_cases w k r j₂
  have hprobe := probe_of_failed hopen hgreet
  simp only [hf, if_true] at hprobe
  cases result with
  | ok u =>
    refine ⟨_, j₃, ?_, hleaves.closing haside, .inl rfl⟩
    rw [hprobe, run_bind_ok hclose, run_fail]
  | error ending =>
    refine ⟨ending, j₃, ?_, hleaves.closing haside, .inr (hfault ending rfl).1⟩
    rw [hprobe, run_bind_error hclose]

/-- Inside a container the daemon that can be reached and answers is found, with its host, exactly
if the routing table is a text or cannot be opened. Otherwise the search for the gateway ends in the
first fault of the table, and so does the probe, unless closing its client is interrupted; the
client is closed then. -/
theorem probe_inside_container
    (hfile : ∀ problem, w.fileBytes routingTable = .error problem → problem.isOsTrouble = true) :
    (Legible (w.fileBytes routingTable) ∧
      ∃ found, (∀ (σ : Type) (s : σ) (i : Journal),
          ∃ i', defaultGateway routingTable w s i = (.ok found, s, i')) ∧
        ∃ j', probe w r j =
          (.ok k, { r with held := some k, host := some (found.getD "localhost") }, j')) ∨
    (¬ Legible (w.fileBytes routingTable) ∧
      ∃ fault, (∀ (σ : Type) (s : σ) (i : Journal),
          defaultGateway routingTable w s i = (.error (.of (.encoding fault)), s, i)) ∧
        ∃ ending j', probe w r j = (.error ending, r, j') ∧ j.Leaves w none j' ∧
          (ending = .of (.encoding fault) ∨ ending.problem.isException = false)) := by
  rcases legible_or_fault hfile with hlegible | ⟨bytes, fault, hcontent, hdecode⟩
  · exact .inl ⟨hlegible, probe_of_legible hway hmark hopen hping hlegible⟩
  · refine .inr ⟨?_, fault, fun σ s i => defaultGateway_of_fault hcontent hdecode s i, ?_⟩
    · rw [hcontent]
      exact not_legible_of_fault hdecode
    · exact probe_of_fault hway hmark hopen hping hcontent hdecode

end Inside

/-- The default route of an interface whose name is no text. -/
def strayTable : List UInt8 :=
  encode (headingLine ++ ['\n']) ++ 0xff :: encode "0\t00000000\t010011AC\t0003\n".toList

def strayWorld : World := { World.holding strayTable with fileExists := fun _ => true }

def socketRoute : Route where
  way := .known .unixSocket
  settings := .plain

theorem not_legible_stray : ¬ Legible (strayWorld.fileBytes routingTable) := by
  have hcontent : strayWorld.fileBytes routingTable = .ok strayTable := rfl
  rw [hcontent]
  intro h
  generalize htable : strayTable = bytes at h
  cases h with
  | text cs => exact encode_append_ne_encode rfl _ _ _ htable

/-- The journal in which the client of the socket is open. -/
def openedJournal : Journal :=
  ({} : Journal).afterCall strayWorld (.clientAt "unix:///var/run/docker.sock" 10 none)

theorem openClient_stray :
    openClient strayWorld socketRoute {} = (.ok "client", socketRoute, openedJournal) := rfl

theorem ping_stray :
    onClient "client" .ping strayWorld socketRoute openedJournal =
      (.ok (), socketRoute, openedJournal.afterCall strayWorld (.client "client" .ping)) := rfl

theorem readable_stray : ∀ problem,
    strayWorld.fileBytes routingTable = .error problem → problem.isOsTrouble = true := by
  intro problem h
  cases h

/-- The stray name ends the search for the gateway, and the probe closes its client. -/
theorem probe_stray :
    ¬ Legible (strayWorld.fileBytes routingTable) ∧
      (∀ found i, defaultGateway routingTable strayWorld socketRoute {} ≠
        (.ok found, socketRoute, i)) ∧
      ∃ ending j', probe strayWorld socketRoute {} = (.error ending, socketRoute, j') ∧
        ({} : Journal).Leaves strayWorld none j' := by
  rcases probe_inside_container rfl rfl openClient_stray ping_stray readable_stray with
    ⟨hlegible, -⟩ | ⟨-, fault, hgateway, ending, j', hprobe, hleaves, -⟩
  · exact absurd hlegible not_legible_stray
  · refine ⟨not_legible_stray, fun found i h => ?_, ending, j', hprobe, hleaves⟩
    rw [hgateway] at h
    cases h

/-- A daemon that is reached and answers is not found. -/
theorem stray_unfound :
    openClient strayWorld socketRoute {} = (.ok "client", socketRoute, openedJournal) ∧
      onClient "client" .ping strayWorld socketRoute openedJournal =
        (.ok (), socketRoute, openedJournal.afterCall strayWorld (.client "client" .ping)) ∧
      ∀ k r' j', probe strayWorld socketRoute {} ≠ (.ok k, r', j') := by
  refine ⟨openClient_stray, ping_stray, fun k r' j' h => ?_⟩
  rcases legible_or_fault readable_stray with hlegible | ⟨bytes, fault, hcontent, hdecode⟩
  · exact absurd hlegible not_legible_stray
  · obtain ⟨ending, i, hprobe, -⟩ :=
      probe_of_fault rfl rfl openClient_stray ping_stray hcontent hdecode
    rw [hprobe] at h
    cases h

end Route

end Mooring
