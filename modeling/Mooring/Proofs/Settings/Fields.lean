import Mooring.Proofs.Plain

/-! Accepted settings, field by field. Settings are accepted exactly if every field is, and then
each of them is what its own field was read as. -/

namespace Mooring

open Reading Rule

namespace Reading

variable {α β : Type}

theorem seq_eq_ok_iff {f : Reading (α → β)} {x : Reading α} {b : β} :
    f <*> x = Except.ok b ↔ ∃ g a, f = Except.ok g ∧ x = Except.ok a ∧ g a = b := by
  constructor
  · intro h
    cases f with
    | error issues => cases x <;> cases h
    | ok g =>
      cases x with
      | error issues => cases h
      | ok a => exact ⟨g, a, rfl, rfl, Except.ok.inj h⟩
  · rintro ⟨g, a, rfl, rfl, rfl⟩
    rfl

variable {s : Sources} {name : String} {fallback a : α} {rule : Value → Except Complaint α}

/-- Only a value that the sources have is put to the rule. -/
theorem field_eq_ok_iff :
    field s name fallback rule = Except.ok a ↔
      s.find? name = none ∧ fallback = a ∨ ∃ v, s.find? name = some v ∧ rule v = .ok a := by
  rw [field]
  constructor
  · intro h
    split at h
    · next hfind => exact .inl ⟨hfind, Except.ok.inj h⟩
    · next v hfind =>
      split at h
      · next b hb => exact .inr ⟨v, hfind, by rw [hb, Except.ok.inj h]⟩
      · cases h
  · rintro (⟨hfind, rfl⟩ | ⟨v, hfind, hv⟩)
    · rw [hfind]
    · simp only [hfind, hv]
      rfl

end Reading

theorem Rule.daemonAddress_ne_empty {v : Value} {address : Option String}
    (h : daemonAddress v = .ok address) : address ≠ some "" := by
  rintro rfl
  obtain ⟨written, -, h⟩ := Action.exists_of_bind_eq_ok h
  cases written with
  | none => cases h
  | some t =>
    by_cases hempty : t = ""
    · simp only [hempty, if_true] at h
      cases h
    · simp only [hempty, if_false] at h
      split at h
      · cases h
        exact hempty rfl
      · cases h

namespace Settings

variable {s : Sources} {settings : Settings}

/-- Every setting is what its field is read as. -/
structure ReadFrom (s : Sources) (settings : Settings) : Prop where
  dockerHost : field s "docker_host" none daemonAddress = .ok settings.dockerHost
  tlsVerify : field s "docker_tls_verify" false switch = .ok settings.tlsVerify
  certPath : field s "docker_cert_path" none optionalText = .ok settings.certPath
  socketPath : field s "docker_socket_path" "/var/run/docker.sock" text = .ok settings.socketPath
  machineName : field s "docker_machine_name" none optionalText = .ok settings.machineName
  timeout : field s "docker_timeout" 60 (numberFrom 1) = .ok settings.timeout
  probeTimeout : field s "docker_probe_timeout" 10 (numberFrom 1) = .ok settings.probeTimeout
  minimumVersion :
    field s "minimum_docker_version" "1.6.0" dottedVersion = .ok settings.minimumVersion
  tinyImage : field s "tiny_image" "alpine:3.5" text = .ok settings.tinyImage
  reaperImage : field s "reaper_image" "testcontainers/ryuk:0.8.1" text = .ok settings.reaperImage
  reaperDisabled : field s "reaper_disabled" false switch = .ok settings.reaperDisabled
  reaperPrivileged : field s "reaper_privileged" false switch = .ok settings.reaperPrivileged
  checksDisabled : field s "checks_disable" false switch = .ok settings.checksDisabled
  minimumFreeDiskMb :
    field s "minimum_free_disk_mb" 2048 (numberFrom 0) = .ok settings.minimumFreeDiskMb
  logLevel : field s "log_level" "INFO" text = .ok settings.logLevel
  logFormat : field s "log_format" "console" text = .ok settings.logFormat
  logFile : field s "log_file" none optionalText = .ok settings.logFile
  logMaxSizeMb : field s "log_max_size_mb" 100 (numberFrom 1) = .ok settings.logMaxSizeMb
  logBackupCount : field s "log_backup_count" 5 (numberFrom 1) = .ok settings.logBackupCount
  logSdkLevel : field s "log_docker_sdk_level" "WARNING" text = .ok settings.logSdkLevel

theorem read_eq_ok_iff : Settings.read s = Except.ok settings ↔ settings.ReadFrom s := by
  constructor
  · intro h
    unfold Settings.read at h
    -- the last field comes off first
    iterate 20
      rw [seq_eq_ok_iff] at h
      obtain ⟨_, _, h, _, rfl⟩ := h
    cases h
    rename_i _ h₂₀ _ h₁₉ _ h₁₈ _ h₁₇ _ h₁₆ _ h₁₅ _ h₁₄ _ h₁₃ _ h₁₂ _ h₁₁ _ h₁₀ _ h₉ _ h₈ _ h₇ _ h₆
      _ h₅ _ h₄ _ h₃ _ h₂ _ h₁
    exact ⟨h₁, h₂, h₃, h₄, h₅, h₆, h₇, h₈, h₉, h₁₀, h₁₁, h₁₂, h₁₃, h₁₄, h₁₅, h₁₆, h₁₇, h₁₈, h₁₉,
      h₂₀⟩
  · rintro ⟨h₁, h₂, h₃, h₄, h₅, h₆, h₇, h₈, h₉, h₁₀, h₁₁, h₁₂, h₁₃, h₁₄, h₁₅, h₁₆, h₁₇, h₁₈, h₁₉,
      h₂₀⟩
    unfold Settings.read
    rw [h₁, h₂, h₃, h₄, h₅, h₆, h₇, h₈, h₉, h₁₀, h₁₁, h₁₂, h₁₃, h₁₄, h₁₅, h₁₆, h₁₇, h₁₈, h₁₉, h₂₀]
    rfl

/-- An accepted daemon address is never empty. -/
theorem ReadFrom.dockerHost_ne_empty (h : settings.ReadFrom s) : settings.dockerHost ≠ some "" := by
  rcases field_eq_ok_iff.mp h.dockerHost with ⟨-, hnone⟩ | ⟨v, -, hv⟩
  · rw [← hnone]
    nofun
  · exact daemonAddress_ne_empty hv

/-! ### Settings about the daemon alone -/

/-- The settings that lead to a daemon; all others are as they are when nothing is said. -/
def reaching (dockerHost : Option String) (tlsVerify : Bool) (certPath : Option String) :
    Settings :=
  { Settings.plain with dockerHost, tlsVerify, certPath, checksDisabled := false }

/-- The fields of these settings. -/
def daemonFields : List String := ["docker_host", "docker_tls_verify", "docker_cert_path"]

/-- Entries for these fields alone have none for any other. -/
theorem get?_of_daemonFields {α : Type} {entries : Record α} {name : String}
    (h : ∀ entry ∈ entries, entry.1 ∈ daemonFields) (hname : name ∉ daemonFields) :
    entries.get? name = none := by
  rw [Record.get?, Option.map_eq_none_iff, List.find?_eq_none]
  intro entry hentry heq
  rw [beq_iff_eq] at heq
  exact hname (heq ▸ h entry hentry)

/-- Sources that say nothing else leave all else as it is by default. -/
theorem read_of_silent {dockerHost : Option String} {tlsVerify : Bool} {certPath : Option String}
    (hsilent : ∀ name, name ∉ daemonFields → s.find? name = none)
    (hhost : field s "docker_host" none daemonAddress = .ok dockerHost)
    (htls : field s "docker_tls_verify" false switch = .ok tlsVerify)
    (hcert : field s "docker_cert_path" none optionalText = .ok certPath) :
    Settings.read s = Except.ok (reaching dockerHost tlsVerify certPath) := by
  have hdefault {α : Type} {name : String}
      (h : name ∉ daemonFields) (fallback : α) (rule : Value → Except Complaint α) :
      field s name fallback rule = Except.ok fallback :=
    field_eq_ok_iff.mpr (.inl ⟨hsilent name h, rfl⟩)
  refine read_eq_ok_iff.mpr ⟨hhost, htls, hcert, ?_, ?_, ?_, ?_, ?_, ?_, ?_, ?_, ?_, ?_, ?_, ?_, ?_,
    ?_, ?_, ?_, ?_⟩
  all_goals exact hdefault (by decide) _ _

end Settings

/-! ### Names in any case -/

namespace Sources

variable {α : Type}

/-- Entries under their names in small letters. -/
def inSmallLetters (entries : Record α) : Record α :=
  entries.map (fun entry => (String.ofList (Text.lower entry.1.toList), entry.2))

theorem namesField_eq (field name : String) :
    namesField field name = (String.ofList (Text.lower name.toList) == field) := by
  rw [namesField, Bool.eq_iff_iff, beq_iff_eq, beq_iff_eq, ← String.toList_inj,
    String.toList_ofList]

/-- Entries are looked up as if their names were written in small letters. -/
theorem givenFor_eq_get? (field : String) (given : Record Value) :
    givenFor field given = (inSmallLetters given).get? field := by
  simp only [givenFor, Record.get?, inSmallLetters, List.find?_map, Option.map_map, namesField_eq]
  rfl

theorem lookUp_eq_get? (field : String) (entries : Record α) :
    lookUp field entries = (inSmallLetters entries.reverse).get? field := by
  simp only [lookUp, Record.get?, inSmallLetters, List.find?_map, Option.map_map, namesField_eq]
  rfl

theorem find?_of_environment {environment small : Record String}
    (h : inSmallLetters environment.reverse = small) (name : String) :
    find? { environment } name = (small.get? name).map .text := by
  simp only [find?, givenFor_eq_get?, lookUp_eq_get?, h]
  cases small.get? name <;> rfl

theorem find?_of_given {given small : Record Value} (h : inSmallLetters given = small)
    (name : String) : find? { given } name = small.get? name := by
  simp only [find?, givenFor_eq_get?, h]
  cases small.get? name <;> rfl

end Sources

end Mooring
