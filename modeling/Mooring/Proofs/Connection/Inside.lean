import Mooring.Proofs.Connection.Use
import Mooring.Proofs.Helper.Bracket
import Mooring.Proofs.Plain

/-! Work inside a connection: it is done in a helper container on the daemon that the connection
stands to, and the container is removed however the work ends. -/

namespace Mooring.Connection

open Mooring.Action

variable {α : Type} {w : World} {j : Journal}

/-- The run up to the creation of the container. -/
theorem runInside_of_client {c c₁ : Connection} {k : Client} {j₁ j₂ j₃ : Journal}
    (hclient : client w c j = (.ok k, c₁, j₁))
    (hensure : ensureImage k c₁.settings.tinyImage w c₁ j₁ = (.ok (), c₁, j₂)) {spec : HelperSpec}
    {adjust : Action HelperSpec Unit}
    (hadjust : adjust w (.ofImage w.session c₁.settings.tinyImage) j₂ = (.ok (), spec, j₃))
    (work : Client → ResourceId → Action Connection α) :
    runInside adjust work w c j = withHelper k spec (work k) w c₁ j₃ := by
  rw [runInside, run_bind_ok hclient, run_bind_ok run_get, run_bind_ok hensure,
    run_bind_ok run_read, run_bind_ok (run_runOn _ _), hadjust]
  rfl

theorem runInside_of_ensured {c : Connection} {r : Route} {k : Client}
    (hinit : c.initialized = true) (hchosen : c.chosen = some r) (hheld : r.held = some k)
    {j₁ j₂ : Journal} {spec : HelperSpec} {adjust : Action HelperSpec Unit}
    (hensure : ensureImage k c.settings.tinyImage w c j = (.ok (), c, j₁))
    (hadjust : adjust w (.ofImage w.session c.settings.tinyImage) j₁ = (.ok (), spec, j₂))
    (work : Client → ResourceId → Action Connection α) :
    runInside adjust work w c j = withHelper k spec (work k) w c j₂ :=
  runInside_of_client (client_of_held hinit hchosen hheld w j) hensure hadjust work

/-- Work in a helper container: a step before the creation fails as it is, and nothing is created
or removed. After the creation the container is asked to be removed exactly once, when the start and
the work are over. Their fault goes on, with one note exactly if the container is left behind; their
value is answered exactly if it is gone. -/
theorem runInside_bracket {c : Connection} {r : Route} {k : Client} (hinit : c.initialized = true)
    (hchosen : c.chosen = some r) (hheld : r.held = some k)
    (hremoval : ∀ events id problem,
      (w.answer events (.client k (.removeContainer id))).result = .error problem →
        problem.isException = true)
    (adjust : Action HelperSpec Unit) (j : Journal) :
    ∃ ensured j₁, ensureImage k c.settings.tinyImage w c j = (ensured, c, j₁) ∧
      j.Grows (fun e => !e.isRemoval) j₁ ∧
      (∀ fault, ensured = .error fault → ∀ work : Client → ResourceId → Action Connection α,
        runInside adjust work w c j = (.error fault, c, j₁)) ∧
      ∀ spec j₂, ensured = .ok () →
        adjust w (.ofImage w.session c.settings.tinyImage) j₁ = (.ok (), spec, j₂) →
        (∀ problem, (w.answer j₂.events (.client k (.createContainer spec.request))).result =
            .error problem → ∀ work : Client → ResourceId → Action Connection α,
          runInside adjust work w c j =
            (.error (.of problem), c,
              j₂.afterCall w (.client k (.createContainer spec.request)))) ∧
        ∀ id, (w.answer j₂.events (.client k (.createContainer spec.request))).result = .ok id →
          ∀ (work : Client → ResourceId → Action Connection α) ended c' j₃,
            carriedOut w k id (work k id) c (created w k spec id j₂) = (ended, c', j₃) →
            ∃ answer result j',
              answer = (w.answer j₃.events (.client k (.removeContainer id))).result ∧
              runInside adjust work w c j = (result, c', j') ∧
              (j₃.afterCall w (.client k (.removeContainer id))).Grows Event.isLogged j' ∧
              (∀ fault, ended = .error fault →
                (Gone answer → result = .error fault) ∧
                ∀ problem, answer = .error problem → ¬ Gone answer →
                  result = .error (fault.note (removalNote id (leftover id problem)))) ∧
              ∀ a, ended = .ok a →
                (result = .ok a ↔ Gone answer) ∧
                ∀ problem, answer = .error problem → ¬ Gone answer →
                  result = .error (leftover id problem) := by
  obtain ⟨ensured, j₁, hensure, hgrows⟩ := ensureImage_cases w k c.settings.tinyImage c j
  refine ⟨ensured, j₁, hensure, hgrows, ?_, ?_⟩
  · rintro fault rfl work
    rw [runInside, run_bind_ok (client_of_held hinit hchosen hheld w j), run_bind_ok run_get,
      run_bind_error hensure]
  · rintro spec j₂ rfl hadjust
    refine ⟨fun problem hrefused work => ?_, fun id hcreated work ended c' j₃ hwork => ?_⟩
    · rw [runInside_of_ensured hinit hchosen hheld hensure hadjust,
        withHelper_of_refused hrefused]
    · obtain ⟨removed, result, j', hrun, hremoves, hbrackets, hlines⟩ :=
        bracket_cases k id ended (hremoval j₃.events id) c'
      refine ⟨_, result, j', rfl, ?_, hlines, ?_, ?_⟩
      · rw [runInside_of_ensured hinit hchosen hheld hensure hadjust,
          withHelper_of_created hcreated, hwork, ← hrun]
      · rintro fault rfl
        exact ⟨hbrackets.error_of_gone hremoves, hbrackets.error_of_left hremoves⟩
      · rintro a rfl
        exact ⟨hbrackets.ok_iff hremoves, hbrackets.ok_of_left hremoves⟩

def conflict : Problem := .refused .general "still in use" (some 409) "Conflict" "" ""

/-- A world in which work is interrupted, and containers are not removed. -/
def stuckWorld : World := World.plain (fun c => match c with
  | .work _ _ => some (.interrupt "stop")
  | .client _ (.removeContainer _) => some conflict
  | _ => none)

/-- A connection over a supplied route. -/
def standing : Connection where
  settings := .plain
  candidates := none
  stage := .resolved
  initialized := true
  chosen := some
    { way := .supplied "own" "own" .unixSocket, settings := .plain, held := some "own" }

/-- The interrupt goes on, with a note about the container that is left behind. -/
theorem runInside_interrupted :
    ∃ j', runInside (pure ()) (fun k id => call (.work (some k) id)) stuckWorld standing {} =
      (.error ((Fault.of (.interrupt "stop")).note
        (removalNote "helper" (leftover "helper" conflict))), standing, j') := by
  have hremoval : ∀ events id problem,
      (stuckWorld.answer events (.client "own" (.removeContainer id))).result = .error problem →
        problem.isException = true := by
    intro events id problem h
    have h : (Except.error conflict : Except Problem Unit) = .error problem := h
    cases h
    rfl
  obtain ⟨ensured, j₁, hensure, -, -, hbracket⟩ :=
    runInside_bracket (α := Unit) (c := standing) rfl rfl rfl hremoval (pure ()) {}
  have hensured : ensureImage "own" Settings.plain.tinyImage stuckWorld standing {} =
    (.ok (), standing,
      Journal.afterCall {} stuckWorld (.client "own" (.imagesNamed "alpine:3.5"))) := rfl
  obtain ⟨rfl, -⟩ := Prod.mk.inj (hensured.symm.trans hensure)
  obtain ⟨-, hwork⟩ := hbracket _ j₁ rfl rfl
  obtain ⟨answer, result, j', hanswer, hrun, -, hfault, -⟩ :=
    hwork "helper" rfl (fun k id => call (.work (some k) id))
      (.error (.of (.interrupt "stop"))) _ _ rfl
  have hleft : ¬ Gone (.error conflict) := by
    rintro (h | ⟨-, h⟩)
    · cases h
    · cases h
  obtain rfl : answer = .error conflict := hanswer
  obtain ⟨-, hnoted⟩ := hfault _ rfl
  exact ⟨j', hnoted conflict rfl hleft ▸ hrun⟩

end Mooring.Connection
