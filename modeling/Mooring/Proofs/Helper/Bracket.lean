import Mooring.Helper.Container
import Mooring.Proofs.Aside

/-! Work in a helper container is bracketed: once the container is created, its removal is asked for
exactly once, after the start or the work has ended in whatever way. The fault of the work goes on
as it is, with a note if the container was left behind. -/

namespace Mooring

open Mooring.Action

variable {σ α : Type} {w : World} {s s' : σ} {j j' : Journal}

/-- Whether an event asks for the forced removal of a container. -/
def Event.isRemoval : Event → Bool
  | .called (.client _ (.removeContainer _)) => true
  | _ => false

def Event.isLogged : Event → Bool
  | .logged _ _ _ => true
  | _ => false

/-! ### The steps of the bracket -/

theorem ensureImage_grows (client : Client) (image : String) :
    j.Grows (fun e => !e.isRemoval) (ensureImage client image w s j).2.2 := by
  refine .seq (.call rfl w j) (fun copies s₁ j₁ _ => ?_)
  split
  · refine .seq (.add rfl _) (fun _ s₂ j₂ _ => .seq (.call rfl w _) (fun result s₃ j₃ _ => ?_))
    split
    · exact .add rfl _
    · split
      · exact .seq (.add rfl _) (fun _ _ _ _ => .refl _ _)
      · exact .refl _ _
  · exact .refl _ _

/-- An image is ensured without touching the object or removing any container. -/
theorem ensureImage_cases (w : World) (client : Client) (image : String) (s : σ) (j : Journal) :
    ∃ ensured j', ensureImage client image w s j = (ensured, s, j') ∧
      j.Grows (fun e => !e.isRemoval) j' := by
  have ensures : StandsAside w id (ensureImage client image : Action σ Unit) :=
    standsAside_ensureImage client image
  have hgrows : j.Grows _ (ensureImage client image w s j).2.2 := ensureImage_grows client image
  rcases hrun : ensureImage client image w s j with ⟨ensured, s', j'⟩
  obtain rfl : s' = s := ensures.kept hrun
  rw [hrun] at hgrows
  exact ⟨ensured, j', rfl, hgrows⟩

/-- A container is gone after its removal if the daemon has removed it, knows nothing of it, or is
about to remove it. -/
def Gone : Except Problem Unit → Prop
  | .ok () => True
  | .error problem =>
    problem.isNotFound = true ∨ problem.isRefusal = true ∧ problem.status? = some 500

/-- What is reported of a container that is left behind. -/
def leftover (id : ResourceId) (problem : Problem) : Fault :=
  if problem.isRefusal then .because (.containerCleanup id (some problem.message)) (.of problem)
  else .of problem

/-- What a removal comes to, by the daemon's answer. -/
inductive Removes (id : ResourceId) : Except Problem Unit → Except Fault Unit → Prop
  | gone {answer} (h : Gone answer) : Removes id answer (.ok ())
  | left {problem} (h : ¬ Gone (.error problem)) :
    Removes id (.error problem) (.error (leftover id problem))

theorem leftover_isException (id : ResourceId) {problem : Problem}
    (h : problem.isException = true) : (leftover id problem).problem.isException = true := by
  unfold leftover
  split
  · rfl
  · exact h

theorem isBenignRemoval_iff (problem : Problem) :
    isBenignRemoval problem = true ↔ Gone (.error problem) := by
  simp [isBenignRemoval, Gone]

theorem isRefusal_of_gone {problem : Problem} (h : Gone (.error problem)) :
    problem.isRefusal = true := by
  rcases h with h | ⟨h, -⟩
  · unfold Problem.isNotFound at h
    split at h
    · rfl
    · rfl
    · cases h
  · exact h

/-- A removal is one call, and at most a line is written about it. -/
theorem removeContainer_cases (w : World) (client : Client) (id : ResourceId) (s : σ)
    (j : Journal) :
    ∃ result j', removeContainer client id w s j = (result, s, j') ∧
      Removes id (w.answer j.events (.client client (.removeContainer id))).result result ∧
      (j.afterCall w (.client client (.removeContainer id))).Grows Event.isLogged j' := by
  rw [removeContainer, run_bind_ok (run_attempt _), onClient]
  cases hr : (w.answer j.events (.client client (.removeContainer id))).result with
  | ok a =>
    rw [run_call_ok hr]
    exact ⟨_, _, rfl, .gone trivial, .add rfl _⟩
  | error problem =>
    rw [run_call_error hr]
    by_cases hgone : Gone (.error problem)
    · have hrefusal : (Fault.of problem).problem.isRefusal = true := isRefusal_of_gone hgone
      have hbenign : isBenignRemoval (Fault.of problem).problem = true :=
        (isBenignRemoval_iff problem).mpr hgone
      simp only [hrefusal, hbenign, Bool.not_true, Bool.false_eq_true, if_false, if_true]
      exact ⟨_, _, rfl, .gone hgone, .add rfl _⟩
    · have hbenign : isBenignRemoval problem = false :=
        Bool.eq_false_iff.mpr (mt (isBenignRemoval_iff problem).mp hgone)
      refine ⟨.error (leftover id problem), _, ?_, .left hgone, .refl _ _⟩
      cases hrefusal : problem.isRefusal with
      | true => simp [leftover, hrefusal, hbenign, Fault.of, Fault.message]
      | false => simp [leftover, hrefusal, Fault.of]

/-- What comes of work together with the removal of its container. -/
inductive Brackets (id : ResourceId) : Except Fault α → Except Fault Unit → Except Fault α → Prop
  | done (a : α) : Brackets id (.ok a) (.ok ()) (.ok a)
  | undone (a : α) (removal : Fault) : Brackets id (.ok a) (.error removal) (.error removal)
  | failed (fault : Fault) : Brackets id (.error fault) (.ok ()) (.error fault)
  | noted (fault removal : Fault) : Brackets id (.error fault) (.error removal)
    (.error (fault.note (removalNote id removal)))

section Outcome

variable {id : ResourceId} {answer : Except Problem Unit} {removed : Except Fault Unit}
  {result : Except Fault α}

theorem Removes.eq_of_gone (h : Removes id answer removed) (hgone : Gone answer) :
    removed = .ok () := by
  cases h with
  | gone => rfl
  | left hleft => exact absurd hgone hleft

theorem Removes.eq_of_left (h : Removes id answer removed) {problem : Problem}
    (hanswer : answer = .error problem) (hleft : ¬ Gone answer) :
    removed = .error (leftover id problem) := by
  cases h with
  | gone hgone => exact absurd hgone hleft
  | left => cases hanswer; rfl

theorem Brackets.error_of_gone {fault : Fault} (h : Brackets id (.error fault) removed result)
    (hr : Removes id answer removed) (hgone : Gone answer) : result = .error fault := by
  obtain rfl := hr.eq_of_gone hgone
  cases h
  rfl

theorem Brackets.error_of_left {fault : Fault} (h : Brackets id (.error fault) removed result)
    (hr : Removes id answer removed) (problem : Problem) (hanswer : answer = .error problem)
    (hleft : ¬ Gone answer) :
    result = .error (fault.note (removalNote id (leftover id problem))) := by
  obtain rfl := hr.eq_of_left hanswer hleft
  cases h
  rfl

theorem Brackets.ok_of_left {a : α} (h : Brackets id (.ok a) removed result)
    (hr : Removes id answer removed) (problem : Problem) (hanswer : answer = .error problem)
    (hleft : ¬ Gone answer) : result = .error (leftover id problem) := by
  obtain rfl := hr.eq_of_left hanswer hleft
  cases h
  rfl

theorem Brackets.ok_iff {a : α} (h : Brackets id (.ok a) removed result)
    (hr : Removes id answer removed) : result = .ok a ↔ Gone answer := by
  cases hr with
  | gone hgone =>
    cases h
    exact iff_of_true rfl hgone
  | left hleft =>
    cases h
    exact iff_of_false (fun h => by cases h) hleft

end Outcome

/-- The removal after work that has ended. In a world whose removals are not interrupted, it decides
between what the work came to and what is told instead. -/
theorem bracket_cases (client : Client) (id : ResourceId) (ended : Except Fault α)
    (hremoval : ∀ problem,
      (w.answer j.events (.client client (.removeContainer id))).result = .error problem →
        problem.isException = true) (s : σ) :
    ∃ removed result j',
      (match ended with
        | .ok a => do
          removeContainer client id
          return a
        | .error fault => removeAfter client id fault : Action σ α) w s j = (result, s, j') ∧
      Removes id (w.answer j.events (.client client (.removeContainer id))).result removed ∧
      Brackets id ended removed result ∧
      (j.afterCall w (.client client (.removeContainer id))).Grows Event.isLogged j' := by
  obtain ⟨removed, j₁, hrun, hremoves, hgrows⟩ := removeContainer_cases w client id s j
  cases ended with
  | ok a =>
    cases removed with
    | ok u => exact ⟨_, _, j₁, run_bind_ok hrun, hremoves, .done a, hgrows⟩
    | error removal => exact ⟨_, _, j₁, run_bind_error hrun, hremoves, .undone a removal, hgrows⟩
  | error fault =>
    refine ⟨removed, ?_⟩
    simp only [removeAfter, run_bind_ok (run_attempt _), hrun]
    cases removed with
    | ok u => exact ⟨_, j₁, rfl, hremoves, .failed fault, hgrows⟩
    | error removal =>
      have hexception : removal.problem.isException = true := by
        generalize hanswer :
          (w.answer j.events (.client client (.removeContainer id))).result = answer at hremoves
        cases hremoves with
        | left hleft => exact leftover_isException id (hremoval _ hanswer)
      simp only [hexception, if_true]
      exact ⟨_, _, rfl, hremoves, .noted fault removal, hgrows.trans (.add rfl _)⟩

/-- What the start of a container and the work in it come to: the work is done exactly when the
container has started. -/
def carriedOut (w : World) (client : Client) (id : ResourceId) (work : Action σ α) (s : σ)
    (j : Journal) : Except Fault α × σ × Journal :=
  match (w.answer j.events (.client client (.startContainer id))).result with
  | .ok () => work w s (j.afterCall w (.client client (.startContainer id)))
  | .error problem =>
    (.error (.of problem), s, j.afterCall w (.client client (.startContainer id)))

theorem run_start (client : Client) (id : ResourceId) (work : Action σ α) :
    (do
      onClient client (.startContainer id)
      work : Action σ α) w s j = carriedOut w client id work s j := by
  rw [carriedOut, onClient]
  cases h : (w.answer j.events (.client client (.startContainer id))).result with
  | ok u => rw [run_bind_ok (run_call_ok h)]
  | error problem => rw [run_bind_error (run_call_error h)]

/-- The journal after a container has been created. -/
def created (w : World) (client : Client) (spec : HelperSpec) (id : ResourceId) (j : Journal) :
    Journal :=
  (j.afterCall w (.client client (.createContainer spec.request))).add
    (.logged .debug "Created helper container"
      [("container_id", .text (shortId id)), ("image", .text spec.image)])

theorem withHelper_of_refused {client : Client} {spec : HelperSpec} {problem : Problem}
    (h : (w.answer j.events (.client client (.createContainer spec.request))).result =
      .error problem) (work : ResourceId → Action σ α) (s : σ) :
    withHelper client spec work w s j =
      (.error (.of problem), s,
        j.afterCall w (.client client (.createContainer spec.request))) := by
  rw [withHelper, onClient, run_bind_error (run_call_error h)]

theorem withHelper_of_created {client : Client} {spec : HelperSpec} {id : ResourceId}
    (h : (w.answer j.events (.client client (.createContainer spec.request))).result = .ok id)
    (work : ResourceId → Action σ α) (s : σ) :
    withHelper client spec work w s j =
      (match (carriedOut w client id (work id) s (created w client spec id j)).1 with
        | .ok a => do
          removeContainer client id
          return a
        | .error fault => removeAfter client id fault : Action σ α) w
        (carriedOut w client id (work id) s (created w client spec id j)).2.1
        (carriedOut w client id (work id) s (created w client spec id j)).2.2 := by
  rw [withHelper, onClient, run_bind_ok (run_call_ok h), run_bind_ok (run_log _ _ _),
    run_bind_ok (run_attempt _), run_start]
  rfl

end Mooring
