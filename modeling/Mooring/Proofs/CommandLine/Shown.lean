import Mooring.Proofs.CommandLine.Release

/-! What a run hands to the console of texts from elsewhere. The message of a failure is escaped,
and the output of a command is shown without markup; but the tables about a daemon and about a
session hold such texts as they are, so markup in one of them is read as markup. -/

namespace Mooring.CommandLine

open Text Mooring.Action Connection

variable {w : World} {j : Journal} {request : Request} {arguments : List String}

/-- The line about a failure. -/
def failureParts (failure : Failure) : List Part :=
  [.own "[red]Error (", .own failure.category.display, .own "):[/red] ", .foreign failure.message]

theorem failureLine_eq (failure : Failure) :
    failureLine failure = compose escape (failureParts failure) := by
  simp [failureLine, failureParts, compose_foreign, String.append_assoc]

/-- A run hands the message of a failure to the console escaped, and the output of a command as it
is, without any markup. Every other text from elsewhere is in a table and read as markup there: the
session to prune in the title, and in the cells the description of the route, its host, what the
daemon says of itself and the session. None of them is escaped, so the table is the one that was
meant exactly if no tag stands in any of these texts and none of them ends in a single backslash. If
the console refuses such a table, nothing else is handed to it but the line about a failure of the
program's own. -/
theorem markup_of_execute (hread : readRequest arguments = .ok request) (settings : Settings)
    (candidates : Option (List Route)) (j : Journal) :
    ∃ result c' j' steps, execute arguments w { settings, candidates } j = (result, c', j') ∧
      j'.steps w = j.steps w ++ steps ∧
      (∀ problem, (w.answer j.events .setUpLogging).result = .error problem →
        steps.filterMap Step.shown? = []) ∧
      ∀ ended c₁ j₁, (w.answer j.events .setUpLogging).result = .ok () →
        carryOut request w { settings, candidates } (j.afterCall w .setUpLogging) =
          (ended, c₁, j₁) →
        (∀ fault failure, ended = .error fault → fault.problem = .failure failure →
          ∃ before, Withheld w (ResultOf w c₁ request) fault.problem before ∧
            steps.filterMap Step.shown? =
              before ++ [.styled (compose escape (failureParts failure))]) ∧
        (∀ fault, ended = .error fault → fault.problem.isFailure = false →
          Withheld w (ResultOf w c₁ request) fault.problem (steps.filterMap Step.shown?)) ∧
        ∀ code, ended = .ok code →
          (∃ command output, request = .run command ∧
            steps.filterMap Step.shown? = [.plain output]) ∨
          ∃ sheet, SheetOf w c₁ request sheet ∧ steps.filterMap Step.shown? = [sheet.shown id] ∧
            (steps.filterMap Step.shown? = [sheet.shown escape] ↔
              ∀ text, sheet.Holds text → Unmarked text.toList) := by
  cases hlogging : (w.answer j.events .setUpLogging).result with
  | error problem =>
    refine ⟨_, _, _, [.asked .setUpLogging (.error problem)], execute_of_unlogged hread hlogging,
      ?_, fun _ _ => rfl, ?_⟩
    · rw [Journal.steps_afterCall, hlogging]
    · rintro _ _ _ ⟨⟩
  | ok _ =>
    rcases hrequest : carryOut request w { settings, candidates } (j.afterCall w .setUpLogging)
      with ⟨ended, c₁, j₁⟩
    obtain ⟨answered, j₂, result, c', j', before, told, after, -, -, hrun, hsteps, hcourse⟩ :=
      course_of_execute hread hlogging hrequest
    refine ⟨result, c', j', _, hrun, hsteps, fun _ h => (by cases h), ?_⟩
    intro ended' c₁' j₁' _ hrequest'
    obtain ⟨rfl, hrest⟩ := Prod.ext_iff.mp hrequest'
    obtain ⟨rfl, -⟩ := Prod.ext_iff.mp hrest
    refine ⟨fun fault failure hended hproblem => ?_, fun fault hended hproblem => ?_,
      fun code hended => ?_⟩
    · subst hended
      rw [← failureLine_eq]
      exact hcourse.shown_of_failure hproblem
    · subst hended
      exact (hcourse.shown_of_passed hproblem).2
    · subst hended
      obtain ⟨-, what, hwhat, hshown⟩ := hcourse.shown_of_ok
      rw [hshown]
      cases hwhat with
      | output command output => exact .inl ⟨command, output, rfl, rfl⟩
      | @sheet _ sheet hsheet =>
        refine .inr ⟨sheet, hsheet, rfl, ?_⟩
        rw [← sheet.shown_escape_iff, List.singleton_inj]
        exact eq_comm

theorem carryOut_prune_clutching {session : String} (h : WellMarked session.toList) (j : Journal) :
    ∃ c₁ j₁, carryOut (.prune session) clutchingWorld fresh j = (.ok (.int 0), c₁, j₁) := by
  obtain ⟨c₁, j₁, hclient⟩ := client_clutching j
  have hsweep : Sweep.run "own" (Session.labels session) clutchingWorld c₁ j₁ =
      (.ok {}, c₁, _) := rfl
  have hrenders : clutchingWorld.Renders := World.renders_of_strictConsole rfl
  have hprint := hrenders.run_print (wellMarked_pruned h {}) c₁
  exact ⟨c₁, _, (run_bind_ok hclient).trans ((run_bind_ok hsweep).trans (run_bind_ok (hprint _)))⟩

/-- The name of a session without brackets or backslashes is shown as it is meant. -/
theorem markup_clutching : readRequest ["prune", "left"] = .ok (.prune "left") ∧
    ∃ result c' j' steps count, execute ["prune", "left"] clutchingWorld fresh {} =
        (result, c', j') ∧
      j'.steps clutchingWorld = steps ∧
      steps.filterMap Step.shown? = [(pruneSheet "left" count).shown id] ∧
      steps.filterMap Step.shown? = [(pruneSheet "left" count).shown escape] := by
  have hread : readRequest ["prune", "left"] = .ok (.prune "left") := by decide +kernel
  have hsession : WellMarked "left".toList := by decide
  obtain ⟨result, c', j', steps, hrun, hsteps, -, hends⟩ :=
    markup_of_execute hread .plain (some [Route.supplied "own"]) {}
  obtain ⟨c₁, j₁, hcarried⟩ :=
    carryOut_prune_clutching hsession (Journal.afterCall {} clutchingWorld .setUpLogging)
  obtain ⟨-, -, hfinished⟩ := hends _ _ _ rfl hcarried
  rcases hfinished _ rfl with ⟨_, _, ⟨⟩, -⟩ | ⟨sheet, hsheet, hshown, hescaped⟩
  obtain ⟨count, rfl⟩ := hsheet.of_prune
  refine ⟨hread, result, c', j', steps, count, hrun, hsteps, hshown, hescaped.mpr ?_⟩
  intro text htext
  obtain rfl := holds_pruneSheet.mp htext
  exact unmarked_of_not_mem (by decide +kernel) (by decide +kernel)

/-- A tag in the name of a session is not escaped. -/
theorem unescaped_clutching :
    ∃ result c' j' steps rows, execute ["prune", "[b]left"] clutchingWorld fresh {} =
        (result, c', j') ∧
      j'.steps clutchingWorld = steps ∧
      steps.filterMap Step.shown? = [.table "Pruned session [b]left" ["Resource", "Count"] rows] ∧
      String.ofList (escape "[b]left".toList) = "\\[b]left" ∧
      ∀ rows', steps.filterMap Step.shown? ≠
        [.table ("Pruned session " ++ String.ofList (escape "[b]left".toList))
          ["Resource", "Count"] rows'] := by
  have hread : readRequest ["prune", "[b]left"] = .ok (.prune "[b]left") := by decide +kernel
  have hsession : WellMarked "[b]left".toList := by decide
  have hescaped : String.ofList (escape "[b]left".toList) = "\\[b]left" := by decide +kernel
  obtain ⟨c₁, j₁, hcarried⟩ :=
    carryOut_prune_clutching hsession (Journal.afterCall {} clutchingWorld .setUpLogging)
  obtain ⟨answered, j₂, result, c', j', before, told, after, -, -, hrun, hsteps, hcourse⟩ :=
    course_of_execute hread rfl hcarried
  obtain ⟨-, what, hwhat, hshown⟩ := hcourse.shown_of_ok
  obtain ⟨sheet, hsheet, rfl⟩ := hwhat.of_prune
  obtain ⟨count, rfl⟩ := hsheet.of_prune
  rw [shown_pruneSheet] at hshown
  refine ⟨result, c', j', courseOf before told after, _, hrun, hsteps, hshown, hescaped,
    fun rows' h => ?_⟩
  rw [hshown, hescaped] at h
  have htitle := (Shown.table.inj (List.head_eq_of_cons_eq h)).1
  revert htitle
  decide +kernel

end Mooring.CommandLine
