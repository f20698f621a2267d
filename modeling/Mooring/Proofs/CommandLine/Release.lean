import Mooring.Proofs.CommandLine.Console
import Mooring.Proofs.CommandLine.Requests
import Mooring.Proofs.Connection.Balance
import Mooring.Proofs.Connection.Inside

/-! The end of a run of the command line. Whatever comes of its request, every client that was
opened is closed and every helper container removed before the program ends; a failure of its own is
told in one line, and any other trouble goes on to the caller. -/

namespace Mooring.CommandLine

open Mooring.Action Mooring.Connection

variable {w : World} {c c₁ : Connection} {j j₁ : Journal} {request : Request}
  {arguments : List String}

/-! ### The answer -/

/-- What comes of a request, and what is handed to the console beside its own result. -/
inductive Answers (w : World) : Except Fault Value → Except Fault Value → List Shown → Prop
  | finished (code : Value) : Answers w (.ok code) (.ok code) []
  | told {fault : Fault} {failure : Failure} (h : fault.problem = .failure failure) :
    Answers w (.error fault) (.ok (.int 1)) [.styled (failureLine failure)]
  | refused {fault : Fault} {failure : Failure} {problem : Problem}
    (h : fault.problem = .failure failure)
    (hrefused : w.Refuses (.styled (failureLine failure)) problem) :
    Answers w (.error fault) (.error (.of problem)) [.styled (failureLine failure)]
  | passed {fault : Fault} (h : fault.problem.isFailure = false) :
    Answers w (.error fault) (.error fault) []

section Answers

variable {fault : Fault} {answered : Except Fault Value} {shown : List Shown}

theorem Answers.of_ok {code : Value} (h : Answers w (.ok code) answered shown) :
    answered = .ok code ∧ shown = [] := by
  cases h
  exact ⟨rfl, rfl⟩

theorem Answers.of_failure {failure : Failure} (h : Answers w (.error fault) answered shown)
    (hproblem : fault.problem = .failure failure) :
    shown = [.styled (failureLine failure)] ∧ (answered = .ok (.int 1) ∨
      ∃ problem, w.Refuses (.styled (failureLine failure)) problem ∧
        answered = .error (.of problem)) := by
  cases h with
  | told h =>
    obtain rfl := Problem.failure.inj (h.symm.trans hproblem)
    exact ⟨rfl, .inl rfl⟩
  | refused h hrefused =>
    obtain rfl := Problem.failure.inj (h.symm.trans hproblem)
    exact ⟨rfl, .inr ⟨_, hrefused, rfl⟩⟩
  | passed h =>
    rw [hproblem] at h
    cases h

theorem Answers.of_passed (h : Answers w (.error fault) answered shown)
    (hproblem : fault.problem.isFailure = false) : answered = .error fault ∧ shown = [] := by
  cases h with
  | told h | refused h _ =>
    rw [h] at hproblem
    cases hproblem
  | passed h => exact ⟨rfl, rfl⟩

end Answers

/-- Whether a step hands something to the console. -/
def isShowing : Step → Bool
  | .showed _ _ => true
  | _ => false

theorem tell_does {fault : Fault} {failure : Failure} (h : fault.problem = .failure failure) :
    Does w (do print (.styled (failureLine failure)); return .int 1) c (fun steps r c' =>
      (∀ x ∈ steps, isShowing x = true) ∧
      Answers w (.error fault) r (steps.filterMap Step.shown?) ∧ c' = c) := by
  refine .afterPrint ?_ (fun problem hrefused => ?_)
  · exact .pure ⟨List.forall_mem_singleton.mpr rfl, .told h, rfl⟩
  · exact ⟨List.forall_mem_singleton.mpr rfl, .refused h hrefused, rfl⟩

theorem answer_run {ended : Except Fault Value} (h : carryOut request w c j = (ended, c₁, j₁)) :
    ∃ answered j₂ told, answer request w c j = (answered, c₁, j₂) ∧ j₁.Aside j₂ ∧
      j₂.steps w = j₁.steps w ++ told ∧ (∀ x ∈ told, isShowing x = true) ∧
      Answers w ended answered (told.filterMap Step.shown?) := by
  rw [answer, run_bind_ok (run_attempt _), h]
  cases ended with
  | ok code => exact ⟨_, _, [], rfl, .refl _ j₁, (List.append_nil _).symm, by simp, .finished code⟩
  | error fault =>
    cases hproblem : fault.problem with
    | failure failure =>
      simp only [hproblem]
      have haside : StandsAside w unseen
          (do print (.styled (failureLine failure)); return .int 1 : Action Connection Value) :=
        .bind (standsAside_print _) (fun _ => .pure _)
      rcases htell : (do print (.styled (failureLine failure)); return .int 1 :
        Action Connection Value) w c₁ j₁ with ⟨answered, c₂, j₂⟩
      obtain ⟨told, hsteps, hshowing, hanswers, rfl⟩ := (tell_does hproblem).run htell
      exact ⟨answered, j₂, told, rfl, haside.aside htell, hsteps, hshowing, hanswers⟩
    | _ =>
      simp only [hproblem]
      exact ⟨_, _, [], rfl, .refl _ j₁, (List.append_nil _).symm, by simp,
        .passed (by rw [hproblem]; rfl)⟩

/-! ### The end -/

theorem execute_of_unlogged {problem : Problem} (hread : readRequest arguments = .ok request)
    (hlogging : (w.answer j.events .setUpLogging).result = .error problem) :
    execute arguments w c j = (.error (.of problem), c, j.afterCall w .setUpLogging) := by
  rw [execute, hread]
  exact run_bind_error (run_call_error hlogging)

/-- However a request was answered, the connection is closed next. -/
theorem execute_of_answered {answered : Except Fault Value}
    (hread : readRequest arguments = .ok request)
    (hlogging : (w.answer j.events .setUpLogging).result = .ok ())
    (hanswer : answer request w c (j.afterCall w .setUpLogging) = (answered, c₁, j₁)) :
    execute arguments w c j =
      (do Connection.close; return Ending.finished (← ofResult answered)) w c₁ j₁ := by
  have hattempt : attempt (answer request) w c (j.afterCall w .setUpLogging) =
      (.ok answered, c₁, j₁) := by
    rw [run_attempt, hanswer]
  rw [execute, hread]
  exact (run_bind_ok (run_call_ok hlogging)).trans (run_bind_ok hattempt)

theorem takes_finish (answered : Except Fault Value) : Takes w .ordinary Idle
    (do Connection.close; return Ending.finished (← ofResult answered)) :=
  .bind takes_close (fun _ => .bind (.ofResult _) (fun _ => .pure _))

/-- An idle connection is closed, and the run ends as its answer did. -/
theorem finish_run (hw : w.Calm) (hc : c.Idle) {stage : Stage} (hstands : c.Stands stage)
    (answered : Except Fault Value) (j : Journal) :
    ∃ c' j', (do Connection.close; return Ending.finished (← ofResult answered)) w c j =
        (answered.map .finished, c', j') ∧
      c'.holding = [] ∧ Passage w true c j c' j' := by
  rcases hclose : Connection.close w c j with ⟨closed, c', j'⟩
  obtain ⟨-, -, -, rfl, hheld⟩ := (close_does hw hc).run hclose
  have hcourse := lawful_close hw c stage j hstands
  rw [hclose] at hcourse
  refine ⟨c', j', ?_, hheld, hcourse.passage⟩
  rw [run_bind_ok hclose]
  cases answered <;> rfl

/-! ### The course of a run -/

/-- The steps of a run: after the log is set up those of its request, then those in which it is told
what came of it, and those of its end. -/
def courseOf (before told after : List Step) : List Step :=
  .asked .setUpLogging (.ok ()) :: (before ++ (told ++ after))

/-- What the parts of a run's course are like. -/
structure Course (w : World) (request : Request) (c : Connection)
    (ended answered : Except Fault Value) (before told after : List Step) : Prop where
  helpers : Mooring.holding Step.helper? Step.removedHelper? none before = some none
  reported : Reported w request c ended (before.filterMap Step.shown?)
  showing : ∀ x ∈ told, isShowing x = true
  answers : Answers w ended answered (told.filterMap Step.shown?)
  ordinary : ∀ x ∈ after, x.isOrdinary = true

section Course

variable {ended answered : Except Fault Value} {before told after : List Step}

theorem helpers_of_isShowing {x : Step} (h : isShowing x = true) :
    x.helper? = none ∧ x.removedHelper? = none := by
  cases x with
  | showed what answer => exact ⟨rfl, rfl⟩
  | asked _ _ | wrote _ _ _ => cases h

theorem Course.helpers_eq (h : Course w request c₁ ended answered before told after) :
    (courseOf before told after).filterMap Step.helper? =
      (courseOf before told after).filterMap Step.removedHelper? := by
  have hquiet : ∀ x ∈ told ++ after, x.helper? = none ∧ x.removedHelper? = none := by
    refine List.forall_mem_append.mpr ⟨fun x hx => helpers_of_isShowing (h.showing x hx), ?_⟩
    exact fun x hx => ⟨Step.helper?_of_isOrdinary (h.ordinary x hx),
      Step.removedHelper?_of_isOrdinary (h.ordinary x hx)⟩
  have hheld : Mooring.holding Step.helper? Step.removedHelper? none
      (before ++ (told ++ after)) = some none := by
    rw [holding_append, h.helpers]
    exact holding_of_quiet hquiet none
  rw [courseOf, List.filterMap_cons_none rfl, List.filterMap_cons_none rfl]
  simpa only [Option.toList_none, List.nil_append, List.append_nil] using balance_of_holding hheld

theorem Course.shown_eq (h : Course w request c₁ ended answered before told after) :
    (courseOf before told after).filterMap Step.shown? =
      before.filterMap Step.shown? ++ told.filterMap Step.shown? := by
  have hnone : after.filterMap Step.shown? = [] :=
    List.filterMap_eq_nil_iff.mpr (fun x hx => Step.shown?_of_isOrdinary (h.ordinary x hx))
  rw [courseOf, List.filterMap_cons_none rfl, List.filterMap_append, List.filterMap_append, hnone,
    List.append_nil]

theorem Course.shown_of_ok {code : Value}
    (h : Course w request c₁ (.ok code) answered before told after) :
    answered = .ok code ∧ ∃ what, ResultOf w c₁ request what ∧
      (courseOf before told after).filterMap Step.shown? = [what] := by
  obtain ⟨hanswered, hnone⟩ := h.answers.of_ok
  rw [h.shown_eq, hnone, List.append_nil]
  exact ⟨hanswered, h.reported.of_ok⟩

theorem Course.shown_of_passed {fault : Fault}
    (h : Course w request c₁ (.error fault) answered before told after)
    (hproblem : fault.problem.isFailure = false) :
    answered = .error fault ∧ Withheld w (ResultOf w c₁ request) fault.problem
      ((courseOf before told after).filterMap Step.shown?) := by
  obtain ⟨hanswered, hnone⟩ := h.answers.of_passed hproblem
  rw [h.shown_eq, hnone, List.append_nil]
  exact ⟨hanswered, h.reported.of_error⟩

theorem Course.shown_of_failure {fault : Fault} {failure : Failure}
    (h : Course w request c₁ (.error fault) answered before told after)
    (hproblem : fault.problem = .failure failure) :
    ∃ withheld, Withheld w (ResultOf w c₁ request) fault.problem withheld ∧
      (courseOf before told after).filterMap Step.shown? =
        withheld ++ [.styled (failureLine failure)] := by
  obtain ⟨hline, -⟩ := h.answers.of_failure hproblem
  exact ⟨_, h.reported.of_error, by rw [h.shown_eq, hline]⟩

end Course

section Execute

variable {settings : Settings} {candidates : Option (List Route)} {ended : Except Fault Value}
  (hread : readRequest arguments = .ok request)
  (hlogging : (w.answer j.events .setUpLogging).result = .ok ())
  (hrequest : carryOut request w { settings, candidates } (j.afterCall w .setUpLogging) =
    (ended, c₁, j₁))

include hread hlogging hrequest

theorem course_of_execute :
    ∃ answered j₂ result c' j' before told after,
      answer request w { settings, candidates } (j.afterCall w .setUpLogging) =
        (answered, c₁, j₂) ∧ j₁.Aside j₂ ∧
      execute arguments w { settings, candidates } j = (result, c', j') ∧
      j'.steps w = j.steps w ++ courseOf before told after ∧
      Course w request c₁ ended answered before told after := by
  obtain ⟨before, hbefore, hidle, hhelpers, hreported⟩ :=
    (carryOut_does request (show Idle { settings, candidates } from rfl)).run hrequest
  obtain ⟨answered, j₂, told, hanswer, haside, htold, hshowing, hanswers⟩ := answer_run hrequest
  have hexecute := execute_of_answered hread hlogging hanswer
  rcases hrun : execute arguments w { settings, candidates } j with ⟨result, c', j'⟩
  obtain ⟨after, hafter, hordinary, -⟩ :=
    (takes_finish answered c₁ hidle).run (hexecute.symm.trans hrun)
  refine ⟨answered, j₂, result, c', j', before, told, after, hanswer, haside, rfl, ?_,
    hhelpers, hreported, hshowing, hanswers, hordinary⟩
  rw [hafter, htold, hbefore, Journal.steps_afterCall, hlogging, courseOf]
  simp only [List.append_assoc, List.cons_append, List.nil_append]

/-- In a calm world a run ends as its request was answered, and every client is closed. -/
theorem ending_of_execute (hw : w.Calm) {answered : Except Fault Value} {j₂ : Journal}
    (hanswer : answer request w { settings, candidates } (j.afterCall w .setUpLogging) =
      (answered, c₁, j₂)) (haside : j₁.Aside j₂) :
    ∃ c' j', execute arguments w { settings, candidates } j = (answered.map .finished, c', j') ∧
      ∃ books, j'.books w = j.books w ++ books ∧ books.opened.Perm books.closed := by
  have hc₀ := stands_unresolved settings candidates
  have hlogged : (j.afterCall w .setUpLogging).books w = j.books w :=
    Journal.books_of_aside (.call rfl w j) w
  obtain ⟨-, -, hidle, -, -⟩ :=
    (carryOut_does request (show Idle { settings, candidates } from rfl)).run hrequest
  have hcourse := (use_carryOut request).lawful hw _ .unresolved (j.afterCall w .setUpLogging) hc₀
  rw [hrequest] at hcourse
  obtain ⟨stage, hstands⟩ := hcourse.passage.stands hw hc₀
  obtain ⟨c', j', hfinish, hheld, hpassage⟩ := finish_run hw hidle hstands answered j₂
  obtain ⟨books, hbooks, hperm⟩ :=
    ((hcourse.passage.trans hw hc₀ (.keeps (.of_aside c₁ haside))).trans hw hc₀ hpassage).balance hw
  have hunheld : Connection.holding { settings, candidates } = [] := rfl
  rw [hunheld, hheld, List.nil_append, List.append_nil] at hperm
  exact ⟨c', j', (execute_of_answered hread hlogging hanswer).trans hfinish, books,
    hbooks.trans (by rw [hlogged]), hperm⟩

end Execute

/-! ### What is told of a failure -/

/-- A failure of the program's own does not come of the console. -/
theorem Withheld.eq_nil {good : Shown → Prop} {failure : Failure} {shown : List Shown}
    (h : Withheld w good (.failure failure) shown) (hw : w.Renders) : shown = [] := by
  rcases h with hnil | ⟨what, -, -, past, hrefused⟩
  · exact hnil
  · exact absurd hrefused (hw.foreign past what failure)

/-- A run of the command line gives back all that it takes. Every client that it opens is closed by
one call, and every helper container that it creates is removed by one, whatever the request is and
whatever the calls and the console come to. If the request ends in a failure of the program's own,
this is told in one line and the exit code is 1, unless the console refuses that line; a console
that shows all that has markup it can read does not. Any other trouble is handed on and nothing is
told of it, and otherwise the exit code is the request's. Beside the line about a failure only a
result is handed to the console; it may be the one whose refusal is the trouble. -/
theorem release_of_execute (hw : w.Calm) (hread : readRequest arguments = .ok request)
    (settings : Settings) (candidates : Option (List Route)) (j : Journal) :
    ∃ result c j' steps, execute arguments w { settings, candidates } j = (result, c, j') ∧
      j'.steps w = j.steps w ++ steps ∧
      (∃ books, j'.books w = j.books w ++ books ∧ books.opened.Perm books.closed) ∧
      steps.filterMap Step.helper? = steps.filterMap Step.removedHelper? ∧
      (∀ problem, (w.answer j.events .setUpLogging).result = .error problem →
        result = .error (.of problem) ∧ steps.filterMap Step.shown? = []) ∧
      ∀ ended c₁ j₁, (w.answer j.events .setUpLogging).result = .ok () →
        carryOut request w { settings, candidates } (j.afterCall w .setUpLogging) =
          (ended, c₁, j₁) →
        (∀ fault failure, ended = .error fault → fault.problem = .failure failure →
          ∃ line, line = Shown.styled ("[red]Error (" ++ failure.category.display ++ "):[/red] " ++
              String.ofList (Text.escape failure.message.toList)) ∧
            (∃ before, Withheld w (isResult ·) fault.problem before ∧
              steps.filterMap Step.shown? = before ++ [line]) ∧
            (result = .ok (.finished (.int 1)) ∨
              ∃ problem, w.Refuses line problem ∧ result = .error (.of problem)) ∧
            ∀ category : Category, failure.category = .text category.label → w.Renders →
              result = .ok (.finished (.int 1)) ∧ steps.filterMap Step.shown? = [line]) ∧
        (∀ fault, ended = .error fault → fault.problem.isFailure = false →
          result = .error fault ∧
            Withheld w (isResult ·) fault.problem (steps.filterMap Step.shown?)) ∧
        ∀ code, ended = .ok code → result = .ok (.finished code) ∧
          ∃ what, isResult what = true ∧ steps.filterMap Step.shown? = [what] := by
  cases hlogging : (w.answer j.events .setUpLogging).result with
  | error problem =>
    have hlogged : (j.afterCall w .setUpLogging).books w = j.books w :=
      Journal.books_of_aside (.call rfl w j) w
    refine ⟨.error (.of problem), _, _, [.asked .setUpLogging (.error problem)],
      execute_of_unlogged hread hlogging, ?_, ⟨{}, ?_, .refl _⟩, rfl, ?_, ?_⟩
    · rw [Journal.steps_afterCall, hlogging]
    · rw [hlogged]
      exact (Books.append_nil _).symm
    · rintro _ ⟨⟩
      exact ⟨rfl, rfl⟩
    · rintro _ _ _ ⟨⟩
  | ok _ =>
    rcases hrequest : carryOut request w { settings, candidates } (j.afterCall w .setUpLogging)
      with ⟨ended, c₁, j₁⟩
    obtain ⟨answered, j₂, result, c', j', before, told, after, hanswer, haside, hrun, hsteps,
      hcourse⟩ := course_of_execute hread hlogging hrequest
    obtain ⟨_, _, hends, hbooks⟩ := ending_of_execute hread hlogging hrequest hw hanswer haside
    obtain ⟨rfl, rfl, rfl⟩ : result = _ ∧ c' = _ ∧ j' = _ := by
      simpa only [Prod.mk.injEq] using hrun.symm.trans hends
    refine ⟨_, _, _, _, hrun, hsteps, hbooks, hcourse.helpers_eq, fun _ h => (by cases h), ?_⟩
    intro ended' c₁' j₁' _ hrequest'
    obtain ⟨rfl, -⟩ := Prod.ext_iff.mp hrequest'
    refine ⟨fun fault failure hended hproblem => ?_, fun fault hended hproblem => ?_,
      fun code hended => ?_⟩
    · subst hended
      obtain ⟨-, hanswered⟩ := hcourse.answers.of_failure hproblem
      obtain ⟨withheld, hwithheld, hshown⟩ := hcourse.shown_of_failure hproblem
      refine ⟨_, rfl, ⟨withheld, hwithheld.mono (fun _ h => h.isResult), hshown⟩, ?_,
        fun category hcategory hrenders => ?_⟩
      · rcases hanswered with rfl | ⟨problem, hrefused, rfl⟩
        · exact .inl rfl
        · exact .inr ⟨problem, hrefused, rfl⟩
      · rw [hproblem] at hwithheld
        rw [hshown, hwithheld.eq_nil hrenders]
        rcases hanswered with rfl | ⟨problem, hrefused, -⟩
        · exact ⟨rfl, rfl⟩
        · exact absurd hrefused (hrenders.not_refuses (wellMarked_failureLine hcategory) problem)
    · subst hended
      obtain ⟨rfl, hwithheld⟩ := hcourse.shown_of_passed hproblem
      exact ⟨rfl, hwithheld.mono (fun _ h => h.isResult)⟩
    · subst hended
      obtain ⟨rfl, what, hwhat, hshown⟩ := hcourse.shown_of_ok
      exact ⟨rfl, what, hwhat.isResult, hshown⟩

/-- A world in which a container writes nothing, and is not removed. Its console is strict. -/
def clutchingWorld : World :=
  { World.plain (fun _ => none) with
    console := strictConsole
    answer := fun _ c => match c with
      | .client _ (.containerLogs _ _) => { result := .ok (.bytes []) }
      | .client _ (.removeContainer _) => { result := .error conflict }
      | c => { result := .ok c.plain } }

theorem client_clutching (j : Journal) : ∃ c₁ j₁,
    Connection.client clutchingWorld fresh j = (.ok "own", c₁, j₁) := by
  have hchoose : Route.choose fresh.routes clutchingWorld fresh.attempting j =
      (.ok (.ok own, [own]), fresh.attempting, _) := rfl
  -- as ever, only the check of the version does not evaluate
  have hinspect (j : Journal) :
      inspect fresh.settings own clutchingWorld (fresh.havingTried [own]) j =
        (.ok _, fresh.havingTried [own], _) :=
    (run_bind_ok rfl).trans <| (run_bind_ok rfl).trans <| (run_bind_ok rfl).trans <|
    (run_bind_ok rfl).trans <| (run_bind_ok rfl).trans <| (run_bind_ok rfl).trans <|
    (run_bind_ok rfl).trans <| (run_bind_ok rfl).trans <|
    (run_bind_ok (checkVersion_plain _ _ _)).trans rfl
  exact ⟨_, _, client_of_linked rfl rfl rfl (resolve_of_inspected hchoose (hinspect _))⟩

/-- The container is asked to be removed once and stays; the failure is told, and the client is
closed. -/
theorem release_clutching : clutchingWorld.Calm ∧ clutchingWorld.Renders ∧
    readRequest ["run", "--", "true"] = .ok (.run ["true"]) ∧
    ∃ c j' steps, execute ["run", "--", "true"] clutchingWorld fresh {} =
        (.ok (.finished (.int 1)), c, j') ∧
      j'.steps clutchingWorld = steps ∧
      (j'.books clutchingWorld).opened.Perm (j'.books clutchingWorld).closed ∧
      steps.filterMap Step.helper? = steps.filterMap Step.removedHelper? ∧
      steps.filterMap Step.shown? =
        [.styled (failureLine (.containerCleanup "helper" (some conflict.message)))] := by
  have hcalm : clutchingWorld.Calm := by
    refine ⟨fun events c problem h => ?_, fun _ _ h => (by cases h),
      isException_of_strictConsole⟩
    simp only [clutchingWorld] at h
    split at h <;> cases h
    rfl
  have hrenders : clutchingWorld.Renders := World.renders_of_strictConsole rfl
  have hread : readRequest ["run", "--", "true"] = .ok (.run ["true"]) := by decide +kernel
  obtain ⟨result, c, j', steps, hrun, hsteps, ⟨books, hbooks, hperm⟩, hhelpers, -, hends⟩ :=
    release_of_execute hcalm hread .plain (some [Route.supplied "own"]) {}
  obtain ⟨c₁, j₁, hclient⟩ :=
    client_clutching (Journal.afterCall {} clutchingWorld .setUpLogging)
  obtain ⟨htold, -⟩ := hends (.error (leftover "helper" conflict)) _ _ rfl
    (run_bind_error ((run_bind_ok hclient).trans rfl))
  obtain ⟨_, rfl, -, -, hshows⟩ := htold _ _ rfl rfl
  obtain ⟨rfl, hshown⟩ := hshows .containerCleanup rfl hrenders
  exact ⟨hcalm, hrenders, hread, c, j', steps, hrun, hsteps, hbooks ▸ hperm, hhelpers, hshown⟩

end Mooring.CommandLine
