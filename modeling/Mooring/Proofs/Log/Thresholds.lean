import Mooring.Log
import Mooring.Proofs.Run
import Mooring.Proofs.Text.Pieces

/-! Thresholds. Each of the two names in the settings stands for the standard threshold that has it
for a name in some case; any other text stands for the fallback of its place. But two texts are
reserved among the names, in any case: they stand for no threshold, and stop logging halfway. -/

namespace Mooring

open Text

/-! ### Names in any case -/

/-- Whether a text is a name but for the case of its letters. -/
def Spells (text name : String) : Prop := asciiUpper text.toList = asciiUpper name.toList

instance (text name : String) : Decidable (Spells text name) :=
  inferInstanceAs (Decidable (asciiUpper text.toList = asciiUpper name.toList))

/-- A name in capitals is spelled by the texts whose capitals it is. -/
theorem spells_iff_of_capitals {text name : String} (h : asciiUpper name.toList = name.toList) :
    Spells text name ↔ String.ofList (asciiUpper text.toList) = name := by
  rw [Spells, h]
  constructor
  · intro hspells
    rw [hspells, String.ofList_toList]
  · rintro rfl
    rw [String.toList_ofList]

/-! ### What a text sets -/

namespace Severity

variable {fallback : Nat} {text : String}

/-- The names of the standard thresholds. -/
def standard : List (String × Nat) :=
  [("NOTSET", 0), ("DEBUG", 10), ("INFO", 20), ("WARN", 30), ("WARNING", 30), ("ERROR", 40),
   ("CRITICAL", 50), ("FATAL", 50)]

/-- The reserved names, and the trouble with each. -/
def reserved : List (String × Problem) :=
  [("BASIC_FORMAT", .unknownLevel basicFormat), ("_STYLES", .misfit (.noLevel formatTable))]

theorem rankOf?_of_standard : ∀ entry ∈ standard,
    asciiUpper entry.1.toList = entry.1.toList ∧ rankOf? entry.1 = some entry.2 := by
  decide +kernel

theorem rankOf?_of_reserved : ∀ entry ∈ reserved,
    asciiUpper entry.1.toList = entry.1.toList ∧ rankOf? entry.1 = none := by
  decide +kernel

theorem rankOf?_of_other {name : String} (h : ∀ entry ∈ standard, name ≠ entry.1) :
    rankOf? name = none := by
  unfold rankOf?
  split <;> first | rfl | simp [standard] at h

theorem threshold_of_standard {entry : String × Nat} (hentry : entry ∈ standard)
    (h : Spells text entry.1) : threshold fallback text = .ok entry.2 := by
  obtain ⟨hcapitals, hrank⟩ := rankOf?_of_standard entry hentry
  rw [threshold, (spells_iff_of_capitals hcapitals).mp h, hrank]

theorem threshold_of_reserved {entry : String × Problem} (hentry : entry ∈ reserved)
    (h : Spells text entry.1) : threshold fallback text = .error entry.2 := by
  obtain ⟨hcapitals, hrank⟩ := rankOf?_of_reserved entry hentry
  rw [threshold, (spells_iff_of_capitals hcapitals).mp h, hrank]
  rw [reserved, List.mem_cons, List.mem_singleton] at hentry
  rcases hentry with rfl | rfl
  · rfl
  · rfl

theorem threshold_of_other (hstandard : ∀ entry ∈ standard, ¬ Spells text entry.1)
    (hreserved : ∀ entry ∈ reserved, ¬ Spells text entry.1) :
    threshold fallback text = .ok fallback := by
  have hrank : rankOf? (String.ofList (asciiUpper text.toList)) = none := by
    refine rankOf?_of_other (fun entry hentry hname => hstandard entry hentry ?_)
    exact (spells_iff_of_capitals (rankOf?_of_standard entry hentry).1).mpr hname
  have hfree : ∀ entry ∈ reserved, String.ofList (asciiUpper text.toList) ≠ entry.1 := by
    intro entry hentry hname
    refine hreserved entry hentry ?_
    exact (spells_iff_of_capitals (rankOf?_of_reserved entry hentry).1).mpr hname
  rw [reserved, List.forall_mem_cons, List.forall_mem_singleton] at hfree
  obtain ⟨hformat, hstyles⟩ := hfree
  rw [threshold, hrank]
  simp only [if_neg hformat, if_neg hstyles]

/-- A text that stands for no threshold. -/
def Reserved (text : String) : Prop := ∃ entry ∈ reserved, Spells text entry.1

instance (text : String) : Decidable (Reserved text) :=
  inferInstanceAs (Decidable (∃ entry ∈ reserved, Spells text entry.1))

/-- The threshold that a text stands for where `fallback` is the one of all other texts. -/
structure Names (fallback : Nat) (text : String) (threshold : Nat) : Prop where
  standard : ∀ entry ∈ standard, Spells text entry.1 → threshold = entry.2
  other : (∀ entry ∈ Severity.standard, ¬ Spells text entry.1) → threshold = fallback

/-- Every text that is not reserved stands for one threshold. -/
theorem threshold_of_free (fallback : Nat) (h : ¬ Reserved text) :
    ∃ n, threshold fallback text = .ok n ∧ Names fallback text n := by
  by_cases hstandard : ∃ entry ∈ standard, Spells text entry.1
  · obtain ⟨entry, hentry, hspells⟩ := hstandard
    have hrank : threshold fallback text = .ok entry.2 := threshold_of_standard hentry hspells
    refine ⟨entry.2, hrank, fun entry' hentry' hspells' => ?_,
      fun hnone => absurd hspells (hnone entry hentry)⟩
    exact Except.ok.inj (hrank.symm.trans (threshold_of_standard hentry' hspells'))
  · have hother : ∀ entry ∈ standard, ¬ Spells text entry.1 :=
      fun entry hentry hspells => hstandard ⟨entry, hentry, hspells⟩
    have hfree : ∀ entry ∈ reserved, ¬ Spells text entry.1 :=
      fun entry hentry hspells => h ⟨entry, hentry, hspells⟩
    exact ⟨fallback, threshold_of_other hother hfree,
      fun entry hentry hspells => absurd hspells (hother entry hentry), fun _ => rfl⟩

end Severity

/-! ### What is set up -/

namespace Logging

open Severity Mooring.Action

variable {settings : LogSettings} {disk : Disk} {problem : Problem} {n m : Nat}
  {file : Option LogFile}

/-! The file. -/

theorem checkNames_eq_ok_iff {cs : List Char} : checkNames cs = .ok () ↔ '\x00' ∉ cs := by
  unfold checkNames
  split
  · next h => simp [List.contains_iff_mem.mp h]
  · next h => simpa using h

theorem mem_of_mem_namesAbove {path : List Char} {c : Char}
    (h : c ∈ (namesAbove path).flatten) : c ∈ path := by
  obtain ⟨name, hname, hc⟩ := List.mem_flatten.mp h
  have hpiece := (List.mem_filter.mp (List.dropLast_subset _ hname)).1
  have hmem : c ∈ (splitAt (· == '/') path).flatten := List.mem_flatten.mpr ⟨_, hpiece, hc⟩
  rw [flatten_splitAt] at hmem
  exact (List.mem_filter.mp hmem).1

/-- The file of the settings can be opened exactly if its path is a proper one, its directory can be
made and the disk opens it. -/
theorem logFile?_eq_ok_iff {path : String} (hfile : settings.file = some path) (hpath : path ≠ "") :
    (∃ file, logFile? settings disk = .ok file) ↔
      '\x00' ∉ path.toList ∧ disk.makeDirectoryOf path = .ok () ∧ disk.openFile path = .ok () := by
  rw [logFile?, hfile]
  simp only [if_neg hpath]
  constructor
  · rintro ⟨file, h⟩
    obtain ⟨_, -, h⟩ := exists_of_bind_eq_ok h
    obtain ⟨_, hmake, h⟩ := exists_of_bind_eq_ok h
    obtain ⟨_, hnames, h⟩ := exists_of_bind_eq_ok h
    obtain ⟨_, hopen, -⟩ := exists_of_bind_eq_ok h
    exact ⟨checkNames_eq_ok_iff.mp hnames, hmake, hopen⟩
  · rintro ⟨hnul, hmake, hopen⟩
    have habove : checkNames (namesAbove path.toList).flatten = .ok () :=
      checkNames_eq_ok_iff.mpr (fun h => hnul (mem_of_mem_namesAbove h))
    rw [habove, checkNames_eq_ok_iff.mpr hnul, hmake, hopen]
    exact ⟨_, rfl⟩

theorem logFile?_of_no_path (h : ∀ path, settings.file = some path → path = "") :
    logFile? settings disk = .ok none := by
  unfold logFile?
  split
  · rfl
  · next path hpath => rw [if_pos (h path hpath)]

/-- The settings ask for no log file, or for one that can be opened. -/
theorem exists_logFile?_iff : (∃ file, logFile? settings disk = .ok file) ↔
    ∀ path, settings.file = some path → path ≠ "" → '\x00' ∉ path.toList ∧
      disk.makeDirectoryOf path = .ok () ∧ disk.openFile path = .ok () := by
  constructor
  · exact fun h path hfile hne => (logFile?_eq_ok_iff hfile hne).mp h
  · intro h
    by_cases hpath : ∃ path, settings.file = some path ∧ path ≠ ""
    · obtain ⟨path, hfile, hne⟩ := hpath
      exact (logFile?_eq_ok_iff hfile hne).mpr (h path hfile hne)
    · refine ⟨none, logFile?_of_no_path (fun path hfile => ?_)⟩
      exact Classical.not_not.mp (fun hne => hpath ⟨path, hfile, hne⟩)

/-! What is set. -/

theorem setUp_of_level (h : Severity.threshold 20 settings.level = .error problem) :
    setUp settings disk = (.error problem, { toConsole := true }) := by
  rw [setUp, h]

theorem setUp_of_file (hlevel : Severity.threshold 20 settings.level = .ok n)
    (h : logFile? settings disk = .error problem) :
    setUp settings disk = (.error problem, { toConsole := true, threshold := n }) := by
  rw [setUp, hlevel]
  simp only [h]

theorem setUp_of_sdkLevel (hlevel : Severity.threshold 20 settings.level = .ok n)
    (hfile : logFile? settings disk = .ok file)
    (h : Severity.threshold 30 settings.sdkLevel = .error problem) :
    setUp settings disk = (.error problem, { toConsole := true, threshold := n, file }) := by
  rw [setUp, hlevel]
  simp only [hfile, h]

theorem setUp_of_ok (hlevel : Severity.threshold 20 settings.level = .ok n)
    (hfile : logFile? settings disk = .ok file)
    (h : Severity.threshold 30 settings.sdkLevel = .ok m) :
    setUp settings disk =
      (.ok (), { toConsole := true, threshold := n, file, libraryThreshold := m }) := by
  rw [setUp, hlevel]
  simp only [hfile, h]

/-- The loggers of the libraries go by the libraries' threshold. -/
theorem thresholdFor_of_mem {logging : Logging} {library : String} (h : library ∈ libraries)
    (hset : logging.libraryThreshold ≠ 0) :
    logging.thresholdFor library = logging.libraryThreshold := by
  have hof : libraries.any (isOf · library) = true :=
    List.any_eq_true.mpr ⟨library, h, by simp [isOf]⟩
  rw [thresholdFor, if_pos ⟨hset, hof⟩]

/-- What logging is once it is set up. If neither text is reserved, the common threshold is the
standard one that the first names or 20, and that of the libraries the standard one that the second
names or 30; nothing but the file can stop it, and it does if its path is not a proper one, its
directory cannot be made or the disk does not open it. A reserved text in the first place ends it
with nothing but the console set; trouble with the file or a reserved text in the second place leave
the libraries without a threshold of their own. -/
theorem thresholds_of_setUp (settings : LogSettings) (disk : Disk) :
    ((setUp settings disk).1 = .ok () ↔ ¬ Reserved settings.level ∧ ¬ Reserved settings.sdkLevel ∧
      ∀ path, settings.file = some path → path ≠ "" → '\x00' ∉ path.toList ∧
        disk.makeDirectoryOf path = .ok () ∧ disk.openFile path = .ok ()) ∧
    (¬ Reserved settings.level → Names 20 settings.level (setUp settings disk).2.threshold) ∧
    (∀ file, logFile? settings disk = .ok file → ¬ Reserved settings.level →
      ¬ Reserved settings.sdkLevel →
        Names 30 settings.sdkLevel (setUp settings disk).2.libraryThreshold ∧
        (setUp settings disk).2.toConsole = true ∧ (setUp settings disk).2.file = file) ∧
    (∀ library ∈ libraries, (setUp settings disk).2.libraryThreshold ≠ 0 →
      (setUp settings disk).2.thresholdFor library = (setUp settings disk).2.libraryThreshold) ∧
    (∀ entry ∈ reserved, Spells settings.level entry.1 →
      setUp settings disk = (.error entry.2, { toConsole := true })) ∧
    (∀ problem, logFile? settings disk = .error problem → ¬ Reserved settings.level →
      (setUp settings disk).1 = .error problem ∧ (setUp settings disk).2.file = none ∧
      (setUp settings disk).2.libraryThreshold = 0) ∧
    ∀ entry ∈ reserved, Spells settings.sdkLevel entry.1 → ¬ Reserved settings.level →
      ∀ file, logFile? settings disk = .ok file →
        (setUp settings disk).1 = .error entry.2 ∧ (setUp settings disk).2.file = file ∧
        (setUp settings disk).2.libraryThreshold = 0 := by
  refine ⟨⟨fun hok => ?_, ?_⟩, fun hlevel => ?_, ?_, fun library => ?_, ?_, ?_, ?_⟩
  · have hlevel : ¬ Reserved settings.level := by
      rintro ⟨entry, hentry, hspells⟩
      rw [setUp_of_level (threshold_of_reserved hentry hspells)] at hok
      cases hok
    obtain ⟨n, hn, -⟩ := threshold_of_free 20 hlevel
    cases hfile : logFile? settings disk with
    | error problem =>
      rw [setUp_of_file hn hfile] at hok
      cases hok
    | ok file =>
      refine ⟨hlevel, ?_, exists_logFile?_iff.mp ⟨file, hfile⟩⟩
      rintro ⟨entry, hentry, hspells⟩
      rw [setUp_of_sdkLevel hn hfile (threshold_of_reserved hentry hspells)] at hok
      cases hok
  · rintro ⟨hlevel, hsdk, hopens⟩
    obtain ⟨file, hfile⟩ := exists_logFile?_iff.mpr hopens
    obtain ⟨n, hn, -⟩ := threshold_of_free 20 hlevel
    obtain ⟨m, hm, -⟩ := threshold_of_free 30 hsdk
    rw [setUp_of_ok hn hfile hm]
  · obtain ⟨n, hn, hnames⟩ := threshold_of_free 20 hlevel
    have hset : (setUp settings disk).2.threshold = n := by
      cases hfile : logFile? settings disk with
      | error problem => rw [setUp_of_file hn hfile]
      | ok file =>
        cases hsdk : Severity.threshold 30 settings.sdkLevel with
        | error problem => rw [setUp_of_sdkLevel hn hfile hsdk]
        | ok m => rw [setUp_of_ok hn hfile hsdk]
    rw [hset]
    exact hnames
  · intro file hfile hlevel hsdk
    obtain ⟨n, hn, -⟩ := threshold_of_free 20 hlevel
    obtain ⟨m, hm, hnames⟩ := threshold_of_free 30 hsdk
    rw [setUp_of_ok hn hfile hm]
    exact ⟨hnames, rfl, rfl⟩
  · exact thresholdFor_of_mem
  · intro entry hentry hspells
    exact setUp_of_level (threshold_of_reserved hentry hspells)
  · intro problem hfile hlevel
    obtain ⟨n, hn, -⟩ := threshold_of_free 20 hlevel
    rw [setUp_of_file hn hfile]
    exact ⟨rfl, rfl, rfl⟩
  · intro entry hentry hspells hlevel file hfile
    obtain ⟨n, hn, -⟩ := threshold_of_free 20 hlevel
    rw [setUp_of_sdkLevel hn hfile (threshold_of_reserved hentry hspells)]
    exact ⟨rfl, rfl, rfl⟩

/-- Settings that name the two thresholds and perhaps a file. -/
def naming (level sdkLevel : String) (file : Option String := none) : LogSettings :=
  { level, format := "console", file, maxSizeMb := 10, backupCount := 5, sdkLevel }

/-- A disk with a directory, which cannot be opened as a file. -/
def diskWithLogs : Disk where
  openFile path :=
    if path = "logs" then .error (.os .isDirectory (some 21) "Is a directory" (some path))
    else .ok ()

/-- The first text is a name in mixed case, the second one is no name; of the two files the second
one stops it. -/
theorem thresholds_naming :
    (setUp (naming "Debug" "quiet" "app.log") diskWithLogs).1 = .ok () ∧
    (setUp (naming "Debug" "quiet" "app.log") diskWithLogs).2.threshold = 10 ∧
    (setUp (naming "Debug" "quiet" "app.log") diskWithLogs).2.libraryThreshold = 30 ∧
    (setUp (naming "Debug" "quiet" "logs") diskWithLogs).1 ≠ .ok () ∧
    (setUp (naming "Debug" "quiet" "logs") diskWithLogs).2.threshold = 10 := by
  have hlevel : ¬ Reserved "Debug" := by decide +kernel
  have hsdk : ¬ Reserved "quiet" := by decide +kernel
  have hdebug : Spells "Debug" "DEBUG" := by decide +kernel
  have hopens : ∀ path, (naming "Debug" "quiet" "app.log").file = some path → path ≠ "" →
      '\x00' ∉ path.toList ∧ diskWithLogs.makeDirectoryOf path = .ok () ∧
        diskWithLogs.openFile path = .ok () := by
    rintro _ ⟨⟩ -
    exact ⟨by decide, rfl, rfl⟩
  obtain ⟨hok, hcommon, hlibraries, -⟩ :=
    thresholds_of_setUp (naming "Debug" "quiet" "app.log") diskWithLogs
  obtain ⟨hok', hcommon', -⟩ := thresholds_of_setUp (naming "Debug" "quiet" "logs") diskWithLogs
  obtain ⟨file, hfile⟩ := exists_logFile?_iff.mpr hopens
  obtain ⟨⟨-, hother⟩, -⟩ := hlibraries file hfile hlevel hsdk
  refine ⟨hok.mpr ⟨hlevel, hsdk, hopens⟩,
    (hcommon hlevel).standard ("DEBUG", 10) (by decide) hdebug, hother (by decide +kernel),
    fun h => ?_, (hcommon' hlevel).standard ("DEBUG", 10) (by decide) hdebug⟩
  obtain ⟨-, -, hlogs⟩ := hok'.mp h
  obtain ⟨-, -, hopen⟩ := hlogs "logs" rfl (by decide)
  cases hopen

/-- A text that is none of the standard names stops it with both thresholds open. -/
theorem unset_naming :
    (∀ entry ∈ standard, ¬ Spells "basic_format" entry.1) ∧
    setUp (naming "basic_format" "WARNING") =
      (.error (.unknownLevel basicFormat), { toConsole := true }) ∧
    (setUp (naming "basic_format" "WARNING")).2.threshold = 30 := by
  have hreserved : ("BASIC_FORMAT", .unknownLevel basicFormat) ∈ reserved := List.mem_cons_self ..
  have hsetUp : setUp (naming "basic_format" "WARNING") = (.error (.unknownLevel basicFormat), _) :=
    setUp_of_level (threshold_of_reserved hreserved (by decide +kernel))
  refine ⟨by decide +kernel, hsetUp, ?_⟩
  rw [hsetUp]

end Logging

end Mooring
