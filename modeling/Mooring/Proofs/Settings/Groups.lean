import Mooring.Proofs.Settings.Fields
import Mooring.Proofs.Text.Case

/-! Groups of settings. A group is read by the names of the settings it is made of, under rules of
its own. What one rule has accepted its other rule accepts again as it is, and what is given for a
field comes before all other sources; so a group has the values of the settings, whatever
environment is in force when it is built. -/

namespace Mooring

open Reading Rule

namespace Record

variable {α : Type}

/-- In a table without repeated keys every entry is found under its key. -/
theorem get?_of_mem {r : Record α} (h : r.keys.Nodup) {key : String} {value : α}
    (hmem : (key, value) ∈ r) : r.get? key = some value := by
  induction r with
  | nil => simp at hmem
  | cons entry r ih =>
    obtain ⟨k, v⟩ := entry
    obtain ⟨hk, hr⟩ := List.nodup_cons.mp h
    rw [get?_cons]
    rcases List.mem_cons.mp hmem with heq | hmem
    · cases heq
      exact if_pos rfl
    · have hne : k ≠ key := by
        rintro rfl
        exact hk (List.mem_map.mpr ⟨_, hmem, rfl⟩)
      rw [if_neg hne, ih hr hmem]

end Record

namespace Sources

/-- Names as fields have them: in the small letters of ASCII, and each for one entry alone. -/
def Proper (names : List String) : Prop :=
  (∀ name ∈ names, ∀ c ∈ name.toList, c.toNat < 128 ∧ c.toLower = c) ∧ names.Nodup

instance (names : List String) : Decidable (Proper names) :=
  decidable_of_iff (names.all (fun name => name.toList.all (fun c =>
      decide (c.toNat < 128 ∧ c.toLower = c))) ∧ names.Nodup)
    (by simp only [Proper, List.all_eq_true, decide_eq_true_eq])

theorem lower_of_proper {names : List String} (h : Proper names) {name : String}
    (hname : name ∈ names) : Text.lower name.toList = name.toList := by
  have hascii : ∀ c ∈ name.toList, c.toNat < 128 := fun c hc => (h.1 name hname c hc).1
  have hsmall : ∀ c ∈ name.toList, c.toLower = id c := fun c hc => (h.1 name hname c hc).2
  calc Text.lower name.toList = name.toList.map Char.toLower := Text.lower_of_ascii hascii
    _ = name.toList.map id := List.map_congr_left hsmall
    _ = name.toList := List.map_id _

theorem inSmallLetters_of_proper {α : Type} {entries : Record α} (h : Proper entries.keys) :
    inSmallLetters entries = entries := by
  have hentry : ∀ entry ∈ entries,
      (String.ofList (Text.lower entry.1.toList), entry.2) = id entry := by
    intro entry hmem
    rw [lower_of_proper h (List.mem_map.mpr ⟨entry, hmem, rfl⟩), String.ofList_toList]
    rfl
  calc inSmallLetters entries = entries.map id := List.map_congr_left hentry
    _ = entries := List.map_id entries

/-- What is given for a field comes before the environment and the file. -/
theorem find?_of_mem_given {s : Sources} (h : Proper s.given.keys) {name : String} {v : Value}
    (hmem : (name, v) ∈ s.given) : s.find? name = some v := by
  have hgiven : givenFor name s.given = some v := by
    rw [givenFor_eq_get?, inSmallLetters_of_proper h]
    exact Record.get?_of_mem h.2 hmem
  rw [find?, hgiven]

end Sources

/-! ### Values that are read again -/

namespace Rule

variable {α : Type}

/-- What one rule accepts another one accepts again, with the same meaning. -/
def Rereads (rule rule' : Value → Except Complaint α) (write : α → Value) : Prop :=
  ∀ v a, rule v = .ok a → rule' (write a) = .ok a

theorem optionalText_write (written : Option String) :
    optionalText (.ofOption .text written) = .ok written := by
  cases written <;> rfl

theorem rereads_optionalText (rule : Value → Except Complaint (Option String)) :
    Rereads rule optionalText (.ofOption .text) :=
  fun _ a _ => optionalText_write a

theorem rereads_text (rule : Value → Except Complaint String) : Rereads rule text .text :=
  fun _ _ _ => rfl

theorem rereads_flag (rule : Value → Except Complaint Bool) : Rereads rule flag .bool :=
  fun _ _ _ => rfl

theorem numberFrom_write {bound n : Int} (h : bound ≤ n) : numberFrom bound (.int n) = .ok n :=
  if_neg (Int.not_lt.mpr h)

theorem le_of_numberFrom {bound n : Int} {v : Value} (h : numberFrom bound v = .ok n) :
    bound ≤ n := by
  obtain ⟨m, -, h⟩ := Action.exists_of_bind_eq_ok h
  by_cases hm : m < bound
  · simp only [hm, if_true] at h
    cases h
  · simp only [hm, if_false] at h
    cases h
    exact Int.not_lt.mp hm

theorem rereads_numberFrom (bound : Int) :
    Rereads (numberFrom bound) (numberFrom bound) .int :=
  fun _ _ h => numberFrom_write (le_of_numberFrom h)

end Rule

namespace Reading

variable {α : Type} {s s' : Sources} {name : String} {fallback fallback' a : α}
  {rule rule' : Value → Except Complaint α} {write : α → Value}

/-- A field that was read once is read again from its value. -/
theorem field_again (h : field s name fallback rule = Except.ok a)
    (hrule : Rereads rule rule' write) (hfallback : rule' (write fallback) = .ok fallback)
    (hfind : s'.find? name = some (write a)) :
    field s' name fallback' rule' = Except.ok a := by
  have haccepted : rule' (write a) = .ok a := by
    rcases field_eq_ok_iff.mp h with ⟨-, rfl⟩ | ⟨v, -, hv⟩
    · exact hfallback
    · exact hrule v a hv
  exact field_eq_ok_iff.mpr (.inr ⟨_, hfind, haccepted⟩)

end Reading

namespace Settings

variable {s : Sources} {settings : Settings}

/-! ### The two groups -/

theorem proper_daemonEntries (settings : Settings) :
    Sources.Proper settings.daemonEntries.keys := by
  have hkeys : Sources.Proper ["docker_host", "docker_tls_verify", "docker_cert_path",
      "docker_socket_path", "docker_machine_name", "docker_timeout", "docker_probe_timeout",
      "minimum_docker_version", "tiny_image", "reaper_image", "reaper_disabled",
      "reaper_privileged", "checks_disable", "minimum_free_disk_mb"] := by
    decide +kernel
  exact hkeys

theorem proper_logEntries (settings : Settings) : Sources.Proper settings.logEntries.keys := by
  have hkeys : Sources.Proper ["log_level", "log_format", "log_file", "log_max_size_mb",
      "log_backup_count", "log_docker_sdk_level"] := by
    decide +kernel
  exact hkeys

/-- The settings that are in the daemon group. -/
def daemonGroup (settings : Settings) : DaemonSettings where
  host := settings.dockerHost
  tlsVerify := settings.tlsVerify
  certPath := settings.certPath
  socketPath := settings.socketPath
  machineName := settings.machineName
  timeout := settings.timeout
  probeTimeout := settings.probeTimeout
  minimumVersion := settings.minimumVersion
  tinyImage := settings.tinyImage
  reaperImage := settings.reaperImage
  reaperDisabled := settings.reaperDisabled
  reaperPrivileged := settings.reaperPrivileged
  checksDisabled := settings.checksDisabled
  minimumFreeDiskMb := settings.minimumFreeDiskMb

/-- The settings that are in the logging group. -/
def logGroup (settings : Settings) : LogSettings where
  level := settings.logLevel
  format := settings.logFormat
  file := settings.logFile
  maxSizeMb := settings.logMaxSizeMb
  backupCount := settings.logBackupCount
  sdkLevel := settings.logSdkLevel

theorem daemon_of_readFrom (h : settings.ReadFrom s) (environment : Record String) :
    settings.daemon environment = Except.ok settings.daemonGroup := by
  have again {α : Type} {name : String} {fallback fallback' a : α}
      {rule rule' : Value → Except Complaint α} {write : α → Value}
      (hread : field s name fallback rule = Except.ok a) (hrule : Rereads rule rule' write)
      (hfallback : rule' (write fallback) = .ok fallback)
      (hmem : (name, write a) ∈ settings.daemonEntries) :
      field (Sources.withoutEmpty { given := settings.daemonEntries, environment })
        name fallback' rule' = Except.ok a :=
    field_again hread hrule hfallback
      (Sources.find?_of_mem_given (proper_daemonEntries settings) hmem)
  dsimp only [daemon, DaemonSettings.read]
  rw [again h.dockerHost (rereads_optionalText _) rfl (by simp [daemonEntries]),
    again h.tlsVerify (rereads_flag _) rfl (by simp [daemonEntries]),
    again h.certPath (rereads_optionalText _) rfl (by simp [daemonEntries]),
    again h.socketPath (rereads_text _) rfl (by simp [daemonEntries]),
    again h.machineName (rereads_optionalText _) rfl (by simp [daemonEntries]),
    again h.timeout (rereads_numberFrom 1) rfl (by simp [daemonEntries]),
    again h.probeTimeout (rereads_numberFrom 1) rfl (by simp [daemonEntries]),
    again h.minimumVersion (rereads_text _) rfl (by simp [daemonEntries]),
    again h.tinyImage (rereads_text _) rfl (by simp [daemonEntries]),
    again h.reaperImage (rereads_text _) rfl (by simp [daemonEntries]),
    again h.reaperDisabled (rereads_flag _) rfl (by simp [daemonEntries]),
    again h.reaperPrivileged (rereads_flag _) rfl (by simp [daemonEntries]),
    again h.checksDisabled (rereads_flag _) rfl (by simp [daemonEntries]),
    again h.minimumFreeDiskMb (rereads_numberFrom 0) rfl (by simp [daemonEntries])]
  rfl

theorem log_of_readFrom (h : settings.ReadFrom s) (environment : Record String) :
    settings.log environment = Except.ok settings.logGroup := by
  have again {α : Type} {name : String} {fallback fallback' a : α}
      {rule rule' : Value → Except Complaint α} {write : α → Value}
      (hread : field s name fallback rule = Except.ok a) (hrule : Rereads rule rule' write)
      (hfallback : rule' (write fallback) = .ok fallback)
      (hmem : (name, write a) ∈ settings.logEntries) :
      field { given := settings.logEntries, environment } name fallback' rule' = Except.ok a :=
    field_again hread hrule hfallback
      (Sources.find?_of_mem_given (proper_logEntries settings) hmem)
  rw [log, LogSettings.read]
  rw [again h.logLevel (rereads_text _) rfl (by simp [logEntries]),
    again h.logFormat (rereads_text _) rfl (by simp [logEntries]),
    again h.logFile (rereads_optionalText _) rfl (by simp [logEntries]),
    again h.logMaxSizeMb (rereads_numberFrom 1) rfl (by simp [logEntries]),
    again h.logBackupCount (rereads_numberFrom 1) rfl (by simp [logEntries]),
    again h.logSdkLevel (rereads_text _) rfl (by simp [logEntries])]
  rfl

/-- Of accepted settings both groups can be built, and every value in them is the one that is set,
whatever the environment holds under the same names at that moment. -/
theorem groups_of_read (h : Settings.read s = Except.ok settings) (environment : Record String) :
    settings.daemon environment = Except.ok
      { host := settings.dockerHost
        tlsVerify := settings.tlsVerify
        certPath := settings.certPath
        socketPath := settings.socketPath
        machineName := settings.machineName
        timeout := settings.timeout
        probeTimeout := settings.probeTimeout
        minimumVersion := settings.minimumVersion
        tinyImage := settings.tinyImage
        reaperImage := settings.reaperImage
        reaperDisabled := settings.reaperDisabled
        reaperPrivileged := settings.reaperPrivileged
        checksDisabled := settings.checksDisabled
        minimumFreeDiskMb := settings.minimumFreeDiskMb } ∧
    settings.log environment = Except.ok
      { level := settings.logLevel
        format := settings.logFormat
        file := settings.logFile
        maxSizeMb := settings.logMaxSizeMb
        backupCount := settings.logBackupCount
        sdkLevel := settings.logSdkLevel } := by
  have hfrom : settings.ReadFrom s := read_eq_ok_iff.mp h
  exact ⟨daemon_of_readFrom hfrom environment, log_of_readFrom hfrom environment⟩

/-- A daemon that is named by hand. -/
def named : Record Value := [("docker_host", .text "tcp://10.0.0.7:2376")]

/-- An environment that says otherwise, and is not fit to be read itself. -/
def crossing : Record String :=
  [("DOCKER_HOST", "unix:///run/docker.sock"), ("DOCKER_TIMEOUT", "0"), ("LOG_LEVEL", "DEBUG")]

theorem read_named :
    Settings.read { given := named } =
      Except.ok (.reaching (some "tcp://10.0.0.7:2376") false none) := by
  have hsmall : Sources.inSmallLetters named = named :=
    Sources.inSmallLetters_of_proper (by decide)
  have hfind := Sources.find?_of_given hsmall
  refine read_of_silent ?_ ?_ ?_ ?_
  · intro name hname
    rw [hfind]
    exact get?_of_daemonFields (by decide) hname
  · exact field_eq_ok_iff.mpr (.inr ⟨_, hfind _, rfl⟩)
  · exact field_eq_ok_iff.mpr (.inl ⟨hfind _, rfl⟩)
  · exact field_eq_ok_iff.mpr (.inl ⟨hfind _, rfl⟩)

/-- The groups go by what was named, and nothing of the environment gets into them. -/
theorem groups_crossed :
    Settings.read { given := named } =
      Except.ok (.reaching (some "tcp://10.0.0.7:2376") false none) ∧
    (∃ daemon, (Settings.reaching (some "tcp://10.0.0.7:2376") false none).daemon crossing =
      Except.ok daemon ∧ daemon.host = some "tcp://10.0.0.7:2376" ∧ daemon.timeout = 60) ∧
    ∃ log, (Settings.reaching (some "tcp://10.0.0.7:2376") false none).log crossing =
      Except.ok log ∧ log.level = "INFO" := by
  obtain ⟨hdaemon, hlog⟩ := groups_of_read read_named crossing
  exact ⟨read_named, ⟨_, hdaemon, rfl, rfl⟩, ⟨_, hlog, rfl⟩⟩

end Settings

end Mooring
