import Mooring.Proofs.Settings.Groups
import Mooring.Proofs.Text.Cuts
import Mooring.Proofs.Text.Numeral

/-! The least version of the daemon that a setting may ask for. It is written as numbers with points
between them, and a text is refused if it is anything else; but the end of one line is let through
behind a version, and becomes part of it. -/

namespace Mooring

open Reading Rule Text

namespace Text

/-- Numbers written in digits of any script, with one point between each and the next. -/
def IsDotted (cs : List Char) : Prop :=
  ∃ groups : List (List Char), groups ≠ [] ∧
    (∀ group ∈ groups, group ≠ [] ∧ ∀ c ∈ group, isDigit c = true) ∧ joinWith ['.'] groups = cs

theorem all_splitAt_iff {cs : List Char} :
    (splitAt (· == '.') cs).all (fun group => !group.isEmpty && group.all isDigit) = true ↔
      IsDotted cs := by
  simp only [List.all_eq_true, Bool.and_eq_true, Bool.not_eq_true', List.isEmpty_eq_false_iff]
  constructor
  · intro h
    exact ⟨_, splitAt_ne_nil _ _, h, joinWith_splitAt '.' cs⟩
  · rintro ⟨groups, hne, hgroups, rfl⟩
    have hunpointed : ∀ group ∈ groups, ∀ c ∈ group, (c == '.') = false :=
      fun group hgroup c hc =>
        beq_eq_false_iff_ne.mpr (ne_of_isDigit (by decide +kernel) ((hgroups group hgroup).2 c hc))
    have hcut : splitAt (· == '.') (joinWith ['.'] groups) = if groups = [] then [[]] else groups :=
      splitAt_joinWith rfl hunpointed
    rwa [hcut, if_neg hne]

theorem IsDotted.isDigit_or_eq {cs : List Char} (h : IsDotted cs) :
    ∀ c ∈ cs, isDigit c = true ∨ c = '.' := by
  obtain ⟨groups, -, hgroups, rfl⟩ := h
  refine forall_mem_joinWith (by simp) ?_
  exact fun group hgroup c hc => .inl ((hgroups group hgroup).2 c hc)

/-- No line ends in a version. -/
theorem IsDotted.lineEnd_not_mem {cs : List Char} (h : IsDotted cs) : '\n' ∉ cs := by
  intro hmem
  rcases h.isDigit_or_eq _ hmem with hdigit | hpoint
  · exact ne_of_isDigit (by decide +kernel) hdigit rfl
  · cases hpoint

end Text

namespace Rule

theorem isDottedNumber_of_ended (body : List Char) :
    isDottedNumber (body ++ ['\n']) = true ↔ IsDotted body := by
  simp only [isDottedNumber, List.reverse_append, List.reverse_singleton, List.singleton_append,
    List.reverse_reverse]
  exact all_splitAt_iff

theorem isDottedNumber_of_unended {cs : List Char} (h : cs.getLast? ≠ some '\n') :
    isDottedNumber cs = true ↔ IsDotted cs := by
  rw [isDottedNumber]
  split
  · next rest heq =>
    rw [← List.head?_reverse, heq] at h
    exact absurd rfl h
  · exact all_splitAt_iff

/-- A version on a line of its own, whether or not the line is ended. -/
theorem isDottedNumber_iff {cs : List Char} :
    isDottedNumber cs = true ↔ IsDotted cs ∨ ∃ body, IsDotted body ∧ cs = body ++ ['\n'] := by
  by_cases hlast : cs.getLast? = some '\n'
  · obtain ⟨body, rfl⟩ := List.getLast?_eq_some_iff.mp hlast
    have hended : ¬ IsDotted (body ++ ['\n']) := fun h => h.lineEnd_not_mem (by simp)
    rw [isDottedNumber_of_ended]
    constructor
    · exact fun h => .inr ⟨body, h, rfl⟩
    · rintro (h | ⟨body', h, heq⟩)
      · exact absurd h hended
      · rwa [List.append_cancel_right heq]
  · rw [isDottedNumber_of_unended hlast]
    constructor
    · exact .inl
    · rintro (h | ⟨body, -, rfl⟩)
      · exact h
      · exact absurd List.getLast?_concat hlast

/-- What is said of a text that is no version. -/
def notDotted : Complaint :=
  .rejected "minimum_docker_version must be a dotted numeric version, e.g. 1.6.0"

theorem dottedVersion_of_dotted {t : String} (h : isDottedNumber t.toList = true) :
    dottedVersion (.text t) = .ok t :=
  if_pos h

theorem dottedVersion_of_not_dotted {t : String} (h : ¬ isDottedNumber t.toList = true) :
    dottedVersion (.text t) = .error notDotted :=
  if_neg h

end Rule

namespace Settings

variable {s base : Sources} {plain : Settings}

/-- Sources that differ in the least version alone are read alike but for it. -/
theorem read_of_rest (h : plain.ReadFrom base)
    (hrest : ∀ name, name ≠ "minimum_docker_version" → s.find? name = base.find? name) :
    Settings.read s = (fun version : String => { plain with minimumVersion := version }) <$>
      field s "minimum_docker_version" "1.6.0" dottedVersion := by
  have same {α : Type} {name : String} {fallback a : α} {rule : Value → Except Complaint α}
      (hread : field base name fallback rule = Except.ok a)
      (hname : name ≠ "minimum_docker_version") : field s name fallback rule = Except.ok a := by
    rw [← hread, field, field, hrest name hname]
  unfold Settings.read
  rw [same h.dockerHost (by decide), same h.tlsVerify (by decide), same h.certPath (by decide),
    same h.socketPath (by decide), same h.machineName (by decide), same h.timeout (by decide),
    same h.probeTimeout (by decide), same h.tinyImage (by decide), same h.reaperImage (by decide),
    same h.reaperDisabled (by decide), same h.reaperPrivileged (by decide),
    same h.checksDisabled (by decide), same h.minimumFreeDiskMb (by decide),
    same h.logLevel (by decide), same h.logFormat (by decide), same h.logFile (by decide),
    same h.logMaxSizeMb (by decide), same h.logBackupCount (by decide),
    same h.logSdkLevel (by decide)]
  cases field s "minimum_docker_version" "1.6.0" dottedVersion <;> rfl

section Version

variable {t : String} (hplain : Settings.read base = Except.ok plain)
  (hrest : ∀ name, name ≠ "minimum_docker_version" → s.find? name = base.find? name)
  (htext : s.find? "minimum_docker_version" = some (.text t))

include hplain hrest htext

theorem read_of_dotted (h : isDottedNumber t.toList = true) :
    Settings.read s = Except.ok { plain with minimumVersion := t } := by
  rw [read_of_rest (read_eq_ok_iff.mp hplain) hrest, field, htext]
  simp only [dottedVersion_of_dotted h]
  rfl

theorem read_of_not_dotted (h : ¬ isDottedNumber t.toList = true) :
    Settings.read s = Except.error [⟨"minimum_docker_version", notDotted⟩] := by
  rw [read_of_rest (read_eq_ok_iff.mp hplain) hrest, field, htext]
  simp only [dottedVersion_of_not_dotted h]
  rfl

/-- Where nothing else is wrong, a version that is asked for is taken exactly if it is numbers with
points between them, or such a version with the end of one line behind it; then it is the least
version as it is written, and else the version alone is complained of. A text that does not end in
a line end is taken exactly if it is a version. -/
theorem read_minimumVersion :
    (Settings.read s = Except.ok { plain with minimumVersion := t } ↔
      IsDotted t.toList ∨ ∃ body, IsDotted body ∧ t.toList = body ++ ['\n']) ∧
    (Settings.read s = Except.error [⟨"minimum_docker_version",
        .rejected "minimum_docker_version must be a dotted numeric version, e.g. 1.6.0"⟩] ↔
      ¬ (IsDotted t.toList ∨ ∃ body, IsDotted body ∧ t.toList = body ++ ['\n'])) ∧
    (t.toList.getLast? ≠ some '\n' →
      (Settings.read s = Except.ok { plain with minimumVersion := t } ↔ IsDotted t.toList)) := by
  rw [← isDottedNumber_iff]
  by_cases h : isDottedNumber t.toList = true
  · have haccepted := read_of_dotted hplain hrest htext h
    refine ⟨iff_of_true haccepted h, iff_of_false ?_ (not_not_intro h), fun hlast => ?_⟩
    · rw [haccepted]
      nofun
    · exact iff_of_true haccepted ((isDottedNumber_of_unended hlast).mp h)
  · have hrefused := read_of_not_dotted hplain hrest htext h
    have hnot : Settings.read s ≠ Except.ok { plain with minimumVersion := t } := by
      rw [hrefused]
      nofun
    refine ⟨iff_of_false hnot h, iff_of_true hrefused h, fun hlast => ?_⟩
    exact iff_of_false hnot (fun hdotted => h ((isDottedNumber_of_unended hlast).mpr hdotted))

end Version

/-- A least version that is asked for by hand. -/
def asked (t : String) : Sources := { given := [("minimum_docker_version", .text t)] }

theorem find?_asked (t name : String) :
    (asked t).find? name = Record.get? [("minimum_docker_version", .text t)] name := by
  have hkeys : Sources.Proper (Record.keys (asked t).given) := by
    have hproper : Sources.Proper ["minimum_docker_version"] := by decide
    exact hproper
  exact Sources.find?_of_given (Sources.inSmallLetters_of_proper hkeys) name

theorem find?_asked_of_ne (t name : String) (h : name ≠ "minimum_docker_version") :
    (asked t).find? name = Sources.find? {} name := by
  rw [find?_asked, Record.get?_cons, if_neg h.symm]
  rfl

theorem find?_asked_self (t : String) :
    (asked t).find? "minimum_docker_version" = some (.text t) :=
  (find?_asked t _).trans rfl

theorem read_nothing : Settings.read {} = Except.ok (reaching none false none) := rfl

/-- Two numbers are taken, and numbers with a sign in front of them are not. -/
theorem read_asked :
    Settings.read (asked "20.10") =
      Except.ok { reaching none false none with minimumVersion := "20.10" } ∧
    Settings.read (asked "v1.6.0") = Except.error [⟨"minimum_docker_version",
      .rejected "minimum_docker_version must be a dotted numeric version, e.g. 1.6.0"⟩] := by
  have houtcome (t : String) :=
    read_minimumVersion read_nothing (find?_asked_of_ne t) (find?_asked_self t)
  refine ⟨(houtcome "20.10").1.mpr ?_, (houtcome "v1.6.0").2.1.mpr ?_⟩
  · exact isDottedNumber_iff.mp (by decide +kernel)
  · exact fun h => absurd (isDottedNumber_iff.mpr h) (by decide +kernel)

/-- A version with the end of a line behind it is taken with it, though it is none. -/
theorem read_asked_ended :
    Settings.read (asked "1.6.0\n") =
      Except.ok { reaching none false none with minimumVersion := "1.6.0\n" } ∧
    ¬ IsDotted "1.6.0\n".toList := by
  constructor
  · exact read_of_dotted read_nothing (find?_asked_of_ne _) (find?_asked_self _)
      (by decide +kernel)
  · exact fun h => h.lineEnd_not_mem (by decide)

end Settings
end Mooring
