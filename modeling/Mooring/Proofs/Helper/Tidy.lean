import Mooring.DiskSpace
import Mooring.Proofs.Agent.Holding
import Mooring.Proofs.Stretch

/-! Helper containers over a stretch of steps. Every one that is created is asked to be removed
before the next one is created, whatever happens in between, and nothing is shown meanwhile. -/

namespace Mooring

open Mooring.Action

variable {σ α : Type} {w : World} {inv : σ → Prop}

namespace Step

/-- The helper container that a step has created, with the client it was created through. -/
def helper? : Step → Option (Client × ResourceId)
  | .asked (.client k (.createContainer _)) (.ok id) => some (k, id)
  | _ => none

/-- The helper container that a step asks to be removed, whatever the daemon answers. -/
def removedHelper? : Step → Option (Client × ResourceId)
  | .asked (.client k (.removeContainer id)) _ => some (k, id)
  | _ => none

/-- What a step hands to the console, whatever comes of it. -/
def shown? : Step → Option Shown
  | .showed what _ => some what
  | _ => none

/-- A step that has no part in helper containers and shows nothing. -/
def isOrdinary : Step → Bool
  | .asked (.client _ (.createContainer _)) _ => false
  | .asked (.client _ (.removeContainer _)) _ => false
  | .showed _ _ => false
  | _ => true

theorem IsLine.isOrdinary {x : Step} (h : x.IsLine) : x.isOrdinary = true := by
  cases h
  rfl

variable {x : Step} (h : x.isOrdinary = true)

include h

theorem helper?_of_isOrdinary : x.helper? = none := by
  unfold helper?
  split
  · cases h
  · rfl

theorem removedHelper?_of_isOrdinary : x.removedHelper? = none := by
  unfold removedHelper?
  split
  · cases h
  · rfl

theorem shown?_of_isOrdinary : x.shown? = none := by
  unfold shown?
  split
  · cases h
  · rfl

end Step

/-- A stretch leads from the helper container that is held before it to the one that is held after
it, and shows nothing. -/
structure Handles (held held' : Option (Client × ResourceId)) (steps : List Step) : Prop where
  helper : holding Step.helper? Step.removedHelper? held steps = some held'
  shown : steps.filterMap Step.shown? = []

section Handles

variable {held held' held'' : Option (Client × ResourceId)} {steps rest : List Step}

theorem Handles.append (h : Handles held held' steps) (h' : Handles held' held'' rest) :
    Handles held held'' (steps ++ rest) := by
  refine ⟨?_, by rw [List.filterMap_append, h.shown, h'.shown]; rfl⟩
  rw [holding_append, h.helper]
  exact h'.helper

theorem Handles.ordinary (h : ∀ x ∈ steps, x.isOrdinary = true)
    (held : Option (Client × ResourceId)) : Handles held held steps := by
  refine ⟨holding_of_quiet (fun x hx => ?_) held, ?_⟩
  · exact ⟨Step.helper?_of_isOrdinary (h x hx), Step.removedHelper?_of_isOrdinary (h x hx)⟩
  · exact List.filterMap_eq_nil_iff.mpr (fun x hx => Step.shown?_of_isOrdinary (h x hx))

theorem Handles.cons {x : Step} (hx : x.isOrdinary = true) (h : Handles held held' steps) :
    Handles held held' (x :: steps) :=
  (Handles.ordinary (List.forall_mem_singleton.mpr hx) held).append h

theorem Handles.create (k : Client) (request : Record Value) (id : ResourceId)
    (h : Handles (some (k, id)) held' steps) :
    Handles none held' (.asked (.client k (.createContainer request)) (.ok id) :: steps) := by
  have hone : Handles none (some (k, id))
    [.asked (.client k (.createContainer request)) (.ok id)] := ⟨rfl, rfl⟩
  exact hone.append h

theorem Handles.remove (k : Client) (id : ResourceId) (answer : Except Problem Unit)
    (h : ∀ x ∈ steps, x.IsLine) :
    Handles (some (k, id)) none (.asked (.client k (.removeContainer id)) answer :: steps) := by
  have hone : Handles (some (k, id)) none [.asked (.client k (.removeContainer id)) answer] :=
    ⟨by simp [holding, hold, Step.helper?, Step.removedHelper?], rfl⟩
  exact hone.append (.ordinary (fun x hx => (h x hx).isOrdinary) none)

end Handles

namespace Stretch

/-- The stretches without a part in helper containers. -/
def ordinary : Stretch := .all Step.isOrdinary

/-- The stretches after which the same helper container is held as before. -/
def tidy (held : Option (Client × ResourceId)) : Stretch where
  holds := Handles held held
  nil := ⟨rfl, rfl⟩
  append := .append

end Stretch

theorem Action.Takes.tidy {act : Action σ α} (h : Takes w .ordinary inv act)
    (held : Option (Client × ResourceId)) : Takes w (.tidy held) inv act :=
  h.mono (fun _ hsteps => .ordinary hsteps held)

/-! ### Helper containers -/

theorem takes_ensureImage (client : Client) (image : String) :
    Takes w .ordinary inv (ensureImage client image : Action σ Unit) := by
  refine .bind (.call (fun _ => rfl)) (fun copies => .ite ?_ (.pure _))
  refine .bind (.log rfl) (fun _ => ?_)
  refine .bind (.attempt (.call (fun _ => rfl))) (fun pulled => ?_)
  split
  · exact .log rfl
  · exact .ite (.bind (.log rfl) (fun _ => .fail _)) (.fail _)

theorem removeContainer_does (client : Client) (id : ResourceId) (s : σ) :
    Does w (removeContainer client id) s (fun steps _ s' => ∃ answer lines,
      steps = .asked (.client client (.removeContainer id)) answer :: lines ∧
        (∀ x ∈ lines, x.IsLine) ∧ s' = s) := by
  refine .attemptCall (fun answer _ => ?_)
  cases answer with
  | ok u => exact .log ⟨_, _, rfl, by simp [Step.IsLine.wrote], rfl⟩
  | error problem =>
    show Does w (if !(Fault.of problem).problem.isRefusal then _ else if _ then _ else _) s _
    split
    · exact .fail ⟨_, [], rfl, by simp, rfl⟩
    · split
      · exact .log ⟨_, _, rfl, by simp [Step.IsLine.wrote], rfl⟩
      · exact .fail ⟨_, [], rfl, by simp, rfl⟩

theorem removeAfter_does (client : Client) (id : ResourceId) (fault : Fault) (s : σ) :
    Does w (removeAfter client id fault : Action σ α) s (fun steps _ s' => ∃ answer lines,
      steps = .asked (.client client (.removeContainer id)) answer :: lines ∧
        (∀ x ∈ lines, x.IsLine) ∧ s' = s) := by
  refine (removeContainer_does client id s).attempt ?_
  rintro _ removed _ ⟨answer, lines, rfl, hlines, rfl⟩
  cases removed with
  | ok u => exact .fail ⟨answer, lines, List.append_nil _, hlines, rfl⟩
  | error removal =>
    show Does w (if removal.problem.isException then _ else _) _ _
    split
    · refine .afterLog (.fail ⟨answer, lines ++ [_], rfl, ?_, rfl⟩)
      exact List.forall_mem_append.mpr ⟨hlines, by simp [Step.IsLine.wrote]⟩
    · exact .fail ⟨answer, lines, List.append_nil _, hlines, rfl⟩

/-- Work in a helper container is tidy if the work itself is: the container is removed by one call
however the work ends. -/
theorem takes_withHelper (client : Client) (spec : HelperSpec) {work : ResourceId → Action σ α}
    (hwork : ∀ id, Takes w (.tidy (some (client, id))) inv (work id)) :
    Takes w (.tidy none) inv (withHelper client spec work) := by
  intro s hs
  refine .ask (fun id _ => .afterLog ?_) (fun problem _ => ⟨⟨rfl, rfl⟩, hs⟩)
  have starts : Takes w (.tidy (some (client, id))) inv
      (do onClient client (.startContainer id); work id) :=
    .bind (Takes.tidy (.call (fun _ => rfl)) _) (fun _ => hwork id)
  refine (starts s hs).attempt ?_
  rintro steps ended s' ⟨hsteps, hs'⟩
  -- whatever has happened since the creation, the removal comes next
  have hremoved {answer : Except Problem Unit} {lines : List Step}
      (hlines : ∀ x ∈ lines, x.IsLine) :
      Handles none none (.asked (.client client (.createContainer spec.request)) (.ok id) ::
        .wrote .debug "Created helper container"
          [("container_id", .text (shortId id)), ("image", .text spec.image)] ::
        (steps ++ .asked (.client client (.removeContainer id)) answer :: lines)) :=
    .create _ _ _ (.cons rfl (hsteps.append (.remove _ _ _ hlines)))
  cases ended with
  | ok a =>
    refine (removeContainer_does client id s').bind ?_ ?_
    · rintro _ _ _ ⟨answer, lines, rfl, hlines, rfl⟩
      exact .pure ⟨by rw [List.append_nil]; exact hremoved hlines, hs'⟩
    · rintro _ fault _ ⟨answer, lines, rfl, hlines, rfl⟩
      exact ⟨hremoved hlines, hs'⟩
  | error fault =>
    refine (removeAfter_does client id fault s').mono ?_
    rintro _ _ _ ⟨answer, lines, rfl, hlines, rfl⟩
    exact ⟨hremoved hlines, hs'⟩

/-! ### Disk space -/

theorem takes_ofTable (table mountPoint : List Char) :
    Takes w .ordinary inv (DiskUsage.ofTable table mountPoint : Action σ DiskUsage) := by
  unfold DiskUsage.ofTable
  split
  · exact .pure _
  · split
    · exact .pure _
    · exact .bind (.log rfl) (fun _ => .pure _)

theorem takes_measure (client : Client) (image : String) :
    Takes w (.tidy none) inv (DiskUsage.measure client image : Action σ DiskUsage) := by
  refine .bind ((takes_ensureImage client image).tidy none) (fun _ => .bind .read (fun _ => ?_))
  refine .bind (takes_withHelper client _ (fun id => ?_)) (fun _ => (takes_ofTable _ _).tidy none)
  exact .bind (Takes.tidy (.call (fun _ => rfl)) _) (fun _ => Takes.tidy (.call (fun _ => rfl)) _)

/-- A check takes what a measurement takes. -/
theorem takes_checkAs {kind : Stretch}
    (hk : ∀ steps, Stretch.ordinary.holds steps → kind.holds steps)
    {client : Client} {image : String}
    (h : Takes w kind inv (DiskUsage.measure client image : Action σ DiskUsage))
    (requiredMb : Int) :
    Takes w kind inv (DiskUsage.check client image requiredMb : Action σ DiskUsage) := by
  refine .bind h (fun usage => .bind (.mono (.log rfl) hk) (fun _ => ?_))
  split
  · exact .ite (.failWith _) (.pure _)
  · exact .pure _

theorem takes_check (client : Client) (image : String) (requiredMb : Int) :
    Takes w (.tidy none) inv
      (DiskUsage.check client image requiredMb : Action σ DiskUsage) :=
  takes_checkAs (fun _ hsteps => Handles.ordinary hsteps none) (takes_measure client image)
    requiredMb

end Mooring
