import Mooring.Proofs.Aside
import Mooring.Proofs.DiskSpace.Table
import Mooring.Proofs.Helper.Tidy
import Mooring.Proofs.Plain
import Mooring.Proofs.Smooth
import Mooring.Proofs.Text.Utf8

/-! The verdict on the disk space of a daemon. Where the image and the helper container are there
and the container has printed a table, the check depends on the first row of the root alone, and it
fails exactly if that row has less than the required space. -/

namespace Mooring

open Text Mooring.Action

variable {σ α : Type} {w : World} {fine : Step → Prop}

/-! ### Helper containers -/

section Helper

variable (hfine : ∀ x, fine x → x.Succeeds) (client : Client)

include hfine

theorem attains_ensureImage (image : String) :
    Attains w fine (IsValue (fun _ => True)) (ensureImage client image : Action σ Unit) := by
  refine .last (.call hfine (fun _ _ => trivial)) (fun copies => .ite (fun _ => ?_) (fun _ => ?_))
  · refine .afterLog (.bind (.attempt (.call hfine (fun _ _ => trivial))) (fun pulled => ?_))
    cases pulled with
    | ok u => exact .log (fun _ => ⟨(), rfl, trivial⟩)
    | error fault =>
      exact .ite (fun _ => .afterLog (.fail IsValue.absurd)) (fun _ => .fail IsValue.absurd)
  · exact .pure ⟨(), rfl, trivial⟩

theorem attains_removeContainer (id : ResourceId) :
    Attains w fine (IsValue (fun _ => True)) (removeContainer client id : Action σ Unit) := by
  refine .bind (.attempt (.call hfine (fun _ _ => trivial))) (fun removed => ?_)
  cases removed with
  | ok u => exact .log (fun _ => ⟨(), rfl, trivial⟩)
  | error fault =>
    refine .ite (fun _ => .fail IsValue.absurd) (fun _ => .ite (fun _ => ?_) (fun _ => ?_))
    · exact .log IsValue.absurd
    · exact .fail IsValue.absurd

/-- Work in a helper container comes to what the work itself comes to. -/
theorem attains_withHelper (spec : HelperSpec) {kind : α → Prop} {work : ResourceId → Action σ α}
    (hwork : ∀ id, Attains w fine (IsValue kind) (work id)) :
    Attains w fine (IsValue kind) (withHelper client spec work) := by
  refine .last (.call hfine (fun _ _ => trivial)) (fun id => .afterLog ?_)
  have hstarted : Attains w fine (IsValue kind)
      (do onClient client (.startContainer id); work id : Action σ α) :=
    .last (.call hfine (fun _ _ => trivial)) (fun _ => hwork id)
  refine .bind hstarted.attempt (fun ended => ?_)
  cases ended with
  | ok a => exact .last (attains_removeContainer hfine client id) (fun _ => .pure (fun h => h))
  | error fault =>
    exact fun s => (removeAfter_does client id fault s).mono (fun _ _ _ _ _ => IsValue.absurd)

end Helper

/-! ### The check -/

/-- What a container wrote is a text, as it is or encoded. -/
def Output.Shows (output : Output) (cs : List Char) : Prop :=
  output = .bytes (encode cs) ∨ output = .text (String.ofList cs)

/-- What a container is read to have written. -/
def Step.logs? : Step → Option Output
  | .asked (.client _ (.containerLogs _ _)) (.ok output) => some output
  | _ => none

/-- A step at which no call fails, and at which a container is read to have written a text. -/
def Step.Prints (cs : List Char) (x : Step) : Prop :=
  x.Succeeds ∧ ∀ output, x.logs? = some output → output.Shows cs

namespace DiskUsage

theorem outputText_of_shows {output : Output} {cs : List Char} (h : output.Shows cs) :
    outputText output = cs := by
  rcases h with rfl | rfl
  · exact decodeLossy_encode cs
  · exact String.toList_ofList

variable (client : Client) (image : String) (requiredMb : Int) (table : Table)

theorem attains_measure :
    Attains w (Step.Prints table.text) (IsValue (· = (table.row? ['/']).elim unknown Row.usage))
      (measure client image : Action σ DiskUsage) := by
  have hfine (x : Step) (h : x.Prints table.text) : x.Succeeds := h.1
  have hlogs (id : ResourceId) :
      Attains w (Step.Prints table.text) (IsValue (Output.Shows · table.text))
        (do
          let _ ← onClient client (.waitContainer id)
          onClient client (.containerLogs id false) : Action σ Output) :=
    .last (.call hfine (fun _ _ => trivial))
      (fun _ => .call hfine (fun output h => h.2 output rfl))
  refine .last (attains_ensureImage hfine client image) (fun _ => .afterRead ?_)
  refine .bind (attains_withHelper hfine client _ hlogs) (fun output => ?_)
  by_cases hshows : output.Shows table.text
  · rw [outputText_of_shows hshows, table.ofTable_text]
    exact .pure (fun _ => ⟨_, rfl, rfl⟩)
  · exact .of_takes (takes_ofTable _ _) (fun _ h => absurd h hshows)

/-- What is to come of a check: without a row nothing is known, and a row with less than the
required space is a failure that tells the space in whole mebibytes. -/
def verdict (row? : Option Row) (requiredMb : Int) : Except Fault DiskUsage :=
  match row? with
  | none => .ok unknown
  | some row =>
    if (row.available.value : Int) < 1024 * requiredMb then
      .error (.ofFailure
        (.notEnoughDiskSpace (.int (row.available.value / 1024 : Nat)) (.int requiredMb)))
    else .ok row.usage

section Known

variable {usage : DiskUsage} {row? : Option Row} (h : usage = row?.elim unknown Row.usage)

include h

theorem verdict_of_unknown (hunknown : usage.availableMb = none) :
    verdict row? requiredMb = .ok usage := by
  subst h
  cases row? with
  | none => rfl
  | some row => cases hunknown

/-- Less than so many kibibytes are fewer whole mebibytes. -/
theorem verdict_of_available {available : Int} (havailable : usage.availableMb = some available) :
    verdict row? requiredMb =
      if available < requiredMb then
        .error (.ofFailure (.notEnoughDiskSpace (.int available) (.int requiredMb)))
      else .ok usage := by
  subst h
  cases row? with
  | none => cases havailable
  | some row =>
    cases havailable
    have hwhole : (row.available.value : Int) < 1024 * requiredMb ↔
        ((row.available.value / 1024 : Nat) : Int) < requiredMb := by
      omega
    simp only [verdict, hwhole]
    rfl

end Known

theorem attains_check :
    Attains w (Step.Prints table.text) (· = verdict (table.row? ['/']) requiredMb)
      (check client image requiredMb : Action σ DiskUsage) := by
  refine .bind (attains_measure client image table) (fun usage => .afterLog ?_)
  split
  · next available havailable =>
    refine .ite (fun hless => .fail (fun h => ?_)) (fun hless => .pure (fun h => ?_))
    · rw [verdict_of_available requiredMb h havailable, if_pos hless]
    · rw [verdict_of_available requiredMb h havailable, if_neg hless]
  · next hunknown => exact .pure (fun h => (verdict_of_unknown requiredMb h hunknown).symm)

/-- Where every call of a check succeeds and its container has printed a table, the check ends in
the verdict on the first row of the root, whatever the heading and the other rows of the table
are. -/
theorem verdict_of_check (s : σ) (j : Journal) :
    ∃ result j' steps, check client image requiredMb w s j = (result, s, j') ∧
      j'.steps w = j.steps w ++ steps ∧
      ((∀ x ∈ steps, x.Prints table.text) → result = verdict (table.row? ['/']) requiredMb) := by
  have haside : StandsAside w id (check client image requiredMb : Action σ DiskUsage) :=
    standsAside_check client image requiredMb
  rcases hrun : check client image requiredMb w s j with ⟨result, s', j'⟩
  obtain rfl : s' = s := haside.kept hrun
  obtain ⟨steps, hsteps, hverdict⟩ :=
    (attains_check client image requiredMb table s').run hrun
  exact ⟨result, j', steps, rfl, hsteps, hverdict⟩

/-- A world in which a container prints a table and nothing fails. -/
def printing (table : Table) : World :=
  { World.plain (fun _ => none) with
    answer := fun _ c => match c with
      | .client _ (.containerLogs _ _) => { result := .ok (.bytes (encode table.text)) }
      | c => { result := .ok c.plain } }

theorem prints_printing (past : List Event) (e : Event) :
    (e.step (printing table) past).Prints table.text := by
  cases e with
  | called c =>
    simp only [Event.step, printing]
    split
    · next k id errors =>
      refine ⟨trivial, ?_⟩
      rintro _ ⟨⟩
      exact .inl rfl
    · next hother =>
      refine ⟨trivial, fun output h => ?_⟩
      unfold Step.logs? at h
      split at h
      · next heq =>
        injection heq with hc
        exact (hother _ _ _ hc).elim
      · cases h
  | logged level message fields => exact ⟨trivial, by rintro _ ⟨⟩⟩
  | shown what => exact ⟨trivial, by rintro _ ⟨⟩⟩

/-- A root that is nearly full. -/
def fullRow : Row where
  name := ⟨"overlay".toList, by decide, by simp [isBlank]⟩
  blocks := ⟨"61255492".toList, by decide, by simp [isBlank]⟩
  used := ⟨"60231492".toList, by decide, by simp [isBlank]⟩
  available := ⟨"1024000".toList, by decide, List.all_eq_true.mp rfl, by decide⟩
  capacity := ⟨"99".toList, by decide, List.all_eq_true.mp rfl, by decide⟩
  mountPoint := ⟨"/".toList, by decide, by simp [isBlank]⟩
  gaps := fun i => i

/-- The root below a file system that is empty. -/
def fullTable : Table where
  heading := "Filesystem 1024-blocks Used Available Capacity Mounted on".toList
  unbroken := by simp [isLineBreak]
  rows := [
    { fullRow with
      available := ⟨"61255492".toList, by decide, List.all_eq_true.mp rfl, by decide⟩
      mountPoint := ⟨"/data".toList, by decide, by simp [isBlank]⟩ },
    fullRow]
  closed := true

/-- Of two gigabytes that are required, a thousand megabytes are there. -/
theorem verdict_fullTable :
    ∃ j' steps, check "own" "alpine:3.5" 2048 (printing fullTable) () {} =
        (.error (.ofFailure (.notEnoughDiskSpace (.int 1000) (.int 2048))), (), j') ∧
      j'.steps (printing fullTable) = steps ∧ ∀ x ∈ steps, x.Prints fullTable.text := by
  obtain ⟨result, j', steps, hrun, hsteps, hverdict⟩ :=
    verdict_of_check (w := printing fullTable) "own" "alpine:3.5" 2048 fullTable () {}
  have hprints : ∀ x ∈ steps, x.Prints fullTable.text := by
    rw [← List.nil_append steps, ← show j'.steps (printing fullTable) = [] ++ steps from hsteps]
    exact Event.forall_mem_stepsIn (prints_printing fullTable) [] j'.events
  have hrow : fullTable.row? ['/'] = some fullRow := rfl
  have hvalue : fullRow.available.value = 1024000 := by decide +kernel
  refine ⟨j', steps, ?_, hsteps, hprints⟩
  rw [hrun, hverdict hprints, hrow, verdict, hvalue, if_pos (by decide)]
  rfl

end DiskUsage

end Mooring
