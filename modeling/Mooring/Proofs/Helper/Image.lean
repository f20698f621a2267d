import Mooring.Proofs.Helper.Tidy

/-! How an image is made sure of. Its copies are listed by its name, and it is pulled if there is
none. Only trouble of the daemon with the pull is reported as a failure to pull the image; any other
comes out as it is. -/

namespace Mooring

open Mooring.Action

variable {σ : Type} {w : World} {k : Client} {image : String} {j : Journal}

/-- The call that pulls an image. -/
def pull (k : Client) (image : String) : Call :=
  .client k (.pullImage (pullTarget image).1 (pullTarget image).2)

/-- The journal when an image is pulled of which no copy was listed. -/
def Journal.pulling (j : Journal) (w : World) (k : Client) (image : String) : Journal :=
  (j.afterCall w (.client k (.imagesNamed image))).add
    (.logged .info "Pulling image" [("image", .text image)])

/-- What comes of a pull that has failed. -/
def unpulled (image : String) (problem : Problem) : Fault :=
  if problem.isDaemonTrouble then
    .because (.imagePull image (some problem.message)) (.of problem)
  else .of problem

/-- What a pull comes to, by its answer. -/
def pullEnding (image : String) : Except Problem Unit → Except Fault Unit
  | .ok () => .ok ()
  | .error problem => .error (unpulled image problem)

/-- The line that is written about a pull, if one is. -/
def pullLines (image : String) : Except Problem Unit → List Step
  | .ok () => [.wrote .info "Pulled image" [("image", .text image)]]
  | .error problem =>
    if problem.isDaemonTrouble then
      [.wrote .error "Failed to pull image"
        [("image", .text image), ("error", .text problem.message)]]
    else []

/-- The steps by which an image is pulled after no copy of it was listed. -/
def pullSteps (k : Client) (image : String) (answer : Except Problem Unit) : List Step :=
  .asked (.client k (.imagesNamed image)) (.ok []) ::
    .wrote .info "Pulling image" [("image", .text image)] :: .asked (pull k image) answer ::
      pullLines image answer

theorem mem_pullSteps (k : Client) (image : String) (answer : Except Problem Unit) :
    .asked (pull k image) answer ∈ pullSteps k image answer := by
  simp [pullSteps]

/-- A fault tells of a pull that has failed if it names the image and has the trouble for its
cause. -/
def ReportsPull (image : String) (problem : Problem) (fault : Fault) : Prop :=
  (∃ reason, fault.problem = .failure (.imagePull image reason)) ∧ fault.cause = some problem

theorem reportsPull_iff (image : String) (problem : Problem) :
    ReportsPull image problem (unpulled image problem) ↔ problem.isDaemonTrouble = true := by
  rw [unpulled]
  cases problem.isDaemonTrouble with
  | true => exact iff_of_true ⟨⟨_, rfl⟩, rfl⟩ rfl
  | false =>
    refine iff_of_false ?_ nofun
    rintro ⟨-, hcause⟩
    cases hcause

/-- A step that shows an image to be there: a copy was listed, or a pull has succeeded. -/
inductive Ensures (k : Client) (image : String) : Step → Prop
  | listed {copies : List ResourceId} (h : copies ≠ []) :
    Ensures k image (.asked (.client k (.imagesNamed image)) (.ok copies))
  | pulled : Ensures k image (.asked (pull k image) (.ok ()))

theorem pullTarget_eq_of_pull_eq {other : String} (h : pull k other = pull k image) :
    pullTarget other = pullTarget image := by
  obtain ⟨-, hcall⟩ := Call.client.inj h
  obtain ⟨hrepository, htag⟩ := ClientCall.pullImage.inj hcall
  exact Prod.ext hrepository htag

/-- Images of one repository and tag are pulled by the same call. -/
theorem Ensures.of_pullTarget {other : String} (h : pullTarget other = pullTarget image) :
    Ensures k other (.asked (pull k image) (.ok ())) := by
  have hsame : ∀ target, target = pullTarget other →
      Ensures k other (.asked (.client k (.pullImage target.1 target.2)) (.ok ())) := by
    rintro _ rfl
    exact .pulled
  exact hsame _ h.symm

/-! ### Runs -/

theorem ensureImage_of_listed {copies : List ResourceId} (hne : copies ≠ [])
    (hlist : (w.answer j.events (.client k (.imagesNamed image))).result = .ok copies)
    (s : σ) :
    ensureImage k image w s j = (.ok (), s, j.afterCall w (.client k (.imagesNamed image))) := by
  obtain ⟨copy, copies, rfl⟩ := List.exists_cons_of_ne_nil hne
  exact run_bind_ok (run_call_ok hlist)

/-- What is done about the answer to a pull. -/
def settlePull (image : String) : Except Problem Unit → Action σ Unit
  | .ok () => log .info "Pulled image" [("image", .text image)]
  | .error problem =>
    if problem.isDaemonTrouble then do
      log .error "Failed to pull image" [("image", .text image), ("error", .text problem.message)]
      fail (.because (.imagePull image (some problem.message)) (.of problem))
    else fail (.of problem)

theorem run_settlePull (w : World) (image : String) (answer : Except Problem Unit) (s : σ)
    (j : Journal) : ∃ j', settlePull image answer w s j = (pullEnding image answer, s, j') ∧
      j'.steps w = j.steps w ++ pullLines image answer := by
  cases answer with
  | ok u => exact ⟨_, rfl, Journal.steps_add ..⟩
  | error problem =>
    rw [settlePull, pullEnding, pullLines, unpulled]
    cases problem.isDaemonTrouble with
    | true => exact ⟨_, rfl, Journal.steps_add ..⟩
    | false => exact ⟨_, rfl, (List.append_nil _).symm⟩

/-- Without a copy the image is pulled, and all that follows is by the answer to that. -/
theorem ensureImage_of_unlisted {answer : Except Problem Unit}
    (hlist : (w.answer j.events (.client k (.imagesNamed image))).result = .ok [])
    (hpull : (w.answer (j.pulling w k image).events (pull k image)).result = answer) (s : σ) :
    ∃ j', ensureImage k image w s j = (pullEnding image answer, s, j') ∧
      j'.steps w = j.steps w ++ pullSteps k image answer := by
  have hpulled : attempt (call (pull k image)) w s (j.pulling w k image) =
      (.ok (answer.mapError Fault.of), s, (j.pulling w k image).afterCall w (pull k image)) := by
    rw [run_attempt, run_call, hpull]
  obtain ⟨j', hsettle, hlines⟩ := run_settlePull w image answer s
    ((j.pulling w k image).afterCall w (pull k image))
  refine ⟨j', ?_, ?_⟩
  · refine (run_bind_ok (run_call_ok hlist)).trans ((run_bind_ok (run_log _ _ _)).trans ?_)
    refine (run_bind_ok hpulled).trans (Eq.trans ?_ hsettle)
    cases answer <;> rfl
  · rw [hlines, Journal.steps_afterCall, hpull, Journal.pulling, Journal.steps_add,
      Journal.steps_afterCall, hlist]
    simp only [List.append_assoc]
    rfl

/-- The two courses by which an image is made sure of. -/
inductive MakesSure (k : Client) (image : String) : List Step → Prop
  | listed {copies : List ResourceId} (h : copies ≠ []) :
    MakesSure k image [.asked (.client k (.imagesNamed image)) (.ok copies)]
  | pulled : MakesSure k image (pullSteps k image (.ok ()))

theorem ensureImage_makesSure (k : Client) (image : String) (s : σ) :
    Does w (ensureImage k image) s (fun steps r s' => Stretch.ordinary.holds steps ∧ s' = s ∧
      (r = .ok () → MakesSure k image steps)) := by
  refine .ask (fun copies _ => ?_)
    (fun problem _ => ⟨List.forall_mem_singleton.mpr rfl, rfl, nofun⟩)
  cases copies with
  | cons copy copies =>
    exact .pure ⟨List.forall_mem_singleton.mpr rfl, rfl, fun _ => .listed (List.cons_ne_nil _ _)⟩
  | nil =>
    refine .afterLog (.attemptCall (fun answer _ => ?_))
    cases answer with
    | ok u =>
      exact .log ⟨by simp [Stretch.ordinary, Stretch.all, Step.isOrdinary], rfl, fun _ => .pulled⟩
    | error problem =>
      show Does w (if (Fault.of problem).problem.isDaemonTrouble then _ else _) s _
      split
      · refine .afterLog (.fail ⟨?_, rfl, nofun⟩)
        simp [Stretch.ordinary, Stretch.all, Step.isOrdinary]
      · refine .fail ⟨?_, rfl, nofun⟩
        simp [Stretch.ordinary, Stretch.all, Step.isOrdinary]

/-- Of the image in question there is a step that shows it to be there; of another one there is only
if that was pulled by the same repository and tag. -/
theorem MakesSure.exists_ensures_iff {steps : List Step} (h : MakesSure k image steps)
    (other : String) :
    (∃ x ∈ steps, Ensures k other x) ↔
      other = image ∨
        (.asked (pull k image) (.ok ()) ∈ steps ∧ pullTarget other = pullTarget image) := by
  cases h with
  | @listed copies hne =>
    constructor
    · rintro ⟨x, hx, hensures⟩
      cases hensures with
      | listed =>
        cases List.mem_singleton.mp hx
        exact .inl rfl
      | pulled => cases List.mem_singleton.mp hx
    · rintro (rfl | ⟨hpull, -⟩)
      · exact ⟨_, List.mem_singleton_self _, .listed hne⟩
      · cases List.mem_singleton.mp hpull
  | pulled =>
    have hmem := mem_pullSteps k image (.ok ())
    constructor
    · rintro ⟨x, hx, hensures⟩
      simp only [pullSteps, pullLines, List.mem_cons, List.not_mem_nil, or_false] at hx
      cases hensures with
      | listed hne =>
        rcases hx with hx | hx | hx | hx
        · cases hx
          exact absurd rfl hne
        · cases hx
        · cases hx
        · cases hx
      | pulled =>
        rcases hx with hx | hx | hx | hx
        · cases hx
        · cases hx
        · exact .inr ⟨hmem, pullTarget_eq_of_pull_eq (Step.asked.inj hx).1⟩
        · cases hx
    · rintro (rfl | ⟨-, hsame⟩)
      · exact ⟨_, hmem, .pulled⟩
      · exact ⟨_, hmem, .of_pullTarget hsame⟩

end Mooring
