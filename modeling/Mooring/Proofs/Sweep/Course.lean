import Mooring.Proofs.Steps
import Mooring.Sweep

/-! The course of a sweep. Each kind is listed once and then dealt with resource by resource; a
removal is followed by a warning where the daemon refuses it, and by nothing else. -/

namespace Mooring

variable {σ : Type} {w : World} {k : Client} {filters : List String} {kind : ResourceKind}
  {id : ResourceId} {count : SweepCount} {steps : List Step}

/-- What the world answers when a kind is listed, after what has happened. -/
def World.listing (w : World) (k : Client) (filters : List String) (past : List Event) :
    ResourceKind → Except Problem (List ResourceId)
  | .container => (w.answer past (.client k (.containersMatching filters))).result
  | .network => (w.answer past (.client k (.networksMatching filters))).result
  | .volume => (w.answer past (.client k (.volumesMatching filters))).result
  | .image => (w.answer past (.client k (.imagesMatching filters))).result

/-- What the world answers when a resource is to be removed. -/
def World.removal (w : World) (k : Client) (id : ResourceId) (past : List Event) :
    ResourceKind → Except Problem Unit
  | .container => (w.answer past (.client k (.sweepContainer id))).result
  | .network => (w.answer past (.client k (.removeNetwork id))).result
  | .volume => (w.answer past (.client k (.removeVolume id))).result
  | .image => (w.answer past (.client k (.removeImage id))).result

namespace Sweep

open Mooring.Action

/-- The step of listing a kind. -/
def listed (k : Client) (filters : List String) (answer : Except Problem (List ResourceId)) :
    ResourceKind → Step
  | .container => .asked (.client k (.containersMatching filters)) answer
  | .network => .asked (.client k (.networksMatching filters)) answer
  | .volume => .asked (.client k (.volumesMatching filters)) answer
  | .image => .asked (.client k (.imagesMatching filters)) answer

/-- The step of a removal. -/
def removed (k : Client) (id : ResourceId) (answer : Except Problem Unit) : ResourceKind → Step
  | .container => .asked (.client k (.sweepContainer id)) answer
  | .network => .asked (.client k (.removeNetwork id)) answer
  | .volume => .asked (.client k (.removeVolume id)) answer
  | .image => .asked (.client k (.removeImage id)) answer

theorem listed_inj {k' : Client} {filters' : List String} {kind' : ResourceKind}
    {answer answer' : Except Problem (List ResourceId)}
    (h : listed k filters answer kind = listed k' filters' answer' kind') :
    k = k' ∧ filters = filters' ∧ answer = answer' ∧ kind = kind' := by
  cases kind <;> cases kind' <;> cases h <;> exact ⟨rfl, rfl, rfl, rfl⟩

theorem removed_inj {k' : Client} {id' : ResourceId} {kind' : ResourceKind}
    {answer answer' : Except Problem Unit}
    (h : removed k id answer kind = removed k' id' answer' kind') :
    k = k' ∧ id = id' ∧ answer = answer' ∧ kind = kind' := by
  cases kind <;> cases kind' <;> cases h <;> exact ⟨rfl, rfl, rfl, rfl⟩

theorem removed_ne_listed {k' : Client} {kind' : ResourceKind} (answer : Except Problem Unit)
    (answer' : Except Problem (List ResourceId)) :
    removed k id answer kind ≠ listed k' filters answer' kind' := by
  cases kind <;> cases kind' <;> nofun

theorem list_does (s : σ) :
    Does w (list k filters kind) s (fun steps r s' => ∃ past answer,
      w.listing k filters past kind = answer ∧ steps = [listed k filters answer kind] ∧
      r = answer.mapError Fault.of ∧ s' = s) := by
  cases kind <;>
    exact .call (fun answer ⟨past, hanswer⟩ => ⟨past, answer, hanswer, rfl, rfl, rfl⟩)

theorem remove_does (s : σ) :
    Does w (remove k id kind) s (fun steps r s' => ∃ past answer,
      w.removal k id past kind = answer ∧ steps = [removed k id answer kind] ∧
      r = answer.mapError Fault.of ∧ s' = s) := by
  cases kind <;>
    exact .call (fun answer ⟨past, hanswer⟩ => ⟨past, answer, hanswer, rfl, rfl, rfl⟩)

/-! ### One resource -/

/-- What the daemon does not have, it refuses to remove. -/
theorem isRefusal_of_isNotFound {problem : Problem} (h : problem.isNotFound = true) :
    problem.isRefusal = true := by
  cases problem with
  | refused => rfl
  | _ => cases h

/-- Whether the resource was gone already. -/
def isGone : Except Problem Unit → Bool
  | .ok () => false
  | .error problem => problem.isNotFound

/-- Whether the daemon refused to remove a resource that it has. -/
def isRefused : Except Problem Unit → Bool
  | .ok () => false
  | .error problem => problem.isRefusal && !problem.isNotFound

/-- The count after a removal that was answered so. -/
def countAfter (count : SweepCount) (kind : ResourceKind) (answer : Except Problem Unit) :
    SweepCount :=
  if isRefused answer then count.kept
  else if isGone answer then count
  else count.removed kind

/-- The warning about a removal, if there is one. -/
def warning (kind : ResourceKind) (id : ResourceId) : Except Problem Unit → List Step
  | .ok () => []
  | .error problem =>
    if isRefused (.error problem) then
      [.wrote .warning "Failed to remove labelled resource"
        [("kind", .text kind.plural), ("resource_id", .text id), ("error", .text problem.message)]]
    else []

/-- A resource with the answer to its removal. -/
abbrev Outcome := ResourceId × Except Problem Unit

/-- The steps of one resource. -/
def dealt (k : Client) (kind : ResourceKind) (outcome : Outcome) : List Step :=
  removed k outcome.1 outcome.2 kind :: warning kind outcome.1 outcome.2

/-- A removal that the sweep goes on from: the resource is removed, gone or refused. -/
def Settled (answer : Except Problem Unit) : Prop :=
  ∀ problem, answer = .error problem → problem.isRefusal = true

/-- What comes of one resource: trouble that is no refusal ends the sweep. -/
inductive Deals (w : World) (k : Client) (kind : ResourceKind) (count : SweepCount)
    (id : ResourceId) : List Step → Except Fault SweepCount → Prop
  | settled {answer : Except Problem Unit} (h : Settled answer) :
    Deals w k kind count id (dealt k kind (id, answer)) (.ok (countAfter count kind answer))
  | failed {past : List Event} {problem : Problem}
    (h : w.removal k id past kind = .error problem) (hp : problem.isRefusal = false) :
    Deals w k kind count id [removed k id (.error problem) kind] (.error (.of problem))

theorem removeOne_does (count : SweepCount) (id : ResourceId) (s : σ) :
    Does w (removeOne k kind count id) s (fun steps r s' =>
      Deals w k kind count id steps r ∧ s' = s) := by
  refine (remove_does s).attempt ?_
  rintro _ _ _ ⟨past, answer, hanswer, rfl, rfl, rfl⟩
  cases answer with
  | ok u => exact .pure ⟨.settled nofun, rfl⟩
  | error problem =>
    have settled (h : problem.isRefusal = true) : Deals w k kind count id
        (dealt k kind (id, .error problem)) (.ok (countAfter count kind (.error problem))) :=
      .settled (by rintro _ ⟨⟩; exact h)
    show Does w (if problem.isNotFound then _ else if problem.isRefusal then _ else _) _ _
    split
    · next hgone =>
      refine .pure ⟨?_, rfl⟩
      simpa [dealt, warning, countAfter, isRefused, isGone, hgone] using
        settled (isRefusal_of_isNotFound hgone)
    · next hthere =>
      split
      · next hrefusal =>
        refine .afterLog (.pure ⟨?_, rfl⟩)
        have hmessage : (Fault.of problem).message = problem.message := rfl
        simpa [dealt, warning, countAfter, isRefused, isGone, hthere, hrefusal, hmessage] using
          settled hrefusal
      · next hother => exact .fail ⟨.failed hanswer (Bool.eq_false_iff.mpr hother), rfl⟩

/-! ### One kind, and all of them -/

/-- What comes of a kind. -/
inductive DealsKind (w : World) (k : Client) (filters : List String) (count : SweepCount)
    (kind : ResourceKind) : List Step → Except Fault SweepCount → Prop
  | unlisted {past : List Event} {problem : Problem}
    (h : w.listing k filters past kind = .error problem) :
    DealsKind w k filters count kind [listed k filters (.error problem) kind] (.error (.of problem))
  | listed {ids : List ResourceId} {rest : List Step} {r : Except Fault SweepCount}
    (h : Folds (Deals w k kind) count ids rest r) :
    DealsKind w k filters count kind (listed k filters (.ok ids) kind :: rest) r

theorem removeKind_does (count : SweepCount) (kind : ResourceKind) (s : σ) :
    Does w (removeKind k filters count kind) s (fun steps r s' =>
      DealsKind w k filters count kind steps r ∧ s' = s) := by
  refine (list_does s).bind ?_ ?_
  · rintro _ ids _ ⟨past, answer, -, rfl, hids, rfl⟩
    obtain rfl := eq_ok_of_mapError hids.symm
    refine (Does.foldlM (fun count id => removeOne_does count id _) count ids).mono ?_
    rintro rest r _ ⟨hfolds, rfl⟩
    exact ⟨.listed hfolds, rfl⟩
  · rintro _ fault _ ⟨past, answer, hanswer, rfl, hfault, rfl⟩
    cases answer with
    | ok ids => cases hfault
    | error problem =>
      cases hfault
      exact ⟨.unlisted hanswer, rfl⟩

/-- The line that ends a sweep. -/
def summary (count : SweepCount) : Step :=
  .wrote .info "Pruned labelled resources" (count.entries.map (fun (name, n) => (name, .int n)))

/-- What comes of a sweep. -/
inductive Sweeps (w : World) (k : Client) (filters : List String) :
    List Step → Except Fault SweepCount → Prop
  | failed {steps : List Step} {fault : Fault}
    (h : Folds (DealsKind w k filters) {} kinds steps (.error fault)) :
    Sweeps w k filters steps (.error fault)
  | finished {steps : List Step} {count : SweepCount}
    (h : Folds (DealsKind w k filters) {} kinds steps (.ok count)) :
    Sweeps w k filters (steps ++ [summary count]) (.ok count)

theorem run_does (labels : Record Value) (s : σ) :
    Does w (run k labels) s (fun steps r s' =>
      Sweeps w k (Session.labelFilters labels) steps r ∧ s' = s) := by
  refine (Does.foldlM (fun count kind => removeKind_does count kind s) _ _).bind ?_ ?_
  · rintro steps count _ ⟨hfolds, rfl⟩
    exact .afterLog (.pure ⟨.finished hfolds, rfl⟩)
  · rintro steps fault _ ⟨hfolds, rfl⟩
    exact ⟨.failed hfolds, rfl⟩

/-! ### Single steps -/

/-- A step of a sweep: a listing, a removal or a line. -/
inductive Sweeping (k : Client) (filters : List String) : Step → Prop
  | listed (answer : Except Problem (List ResourceId)) (kind : ResourceKind) :
    Sweeping k filters (listed k filters answer kind)
  | removed (id : ResourceId) (answer : Except Problem Unit) (kind : ResourceKind) :
    Sweeping k filters (removed k id answer kind)
  | line {x : Step} (h : x.IsLine) : Sweeping k filters x

theorem isLine_of_mem_warning {answer : Except Problem Unit} {x : Step}
    (hx : x ∈ warning kind id answer) : x.IsLine := by
  cases answer with
  | ok u => cases hx
  | error problem =>
    simp only [warning] at hx
    split at hx
    · rw [List.mem_singleton.mp hx]
      exact .wrote _ _ _
    · cases hx

theorem Deals.sweeping {r : Except Fault SweepCount} (h : Deals w k kind count id steps r)
    (filters : List String) : ∀ x ∈ steps, Sweeping k filters x := by
  cases h with
  | @settled answer _ =>
    exact List.forall_mem_cons.mpr
      ⟨.removed id answer kind, fun x hx => .line (isLine_of_mem_warning hx)⟩
  | failed h hp => exact List.forall_mem_singleton.mpr (.removed id _ kind)

theorem DealsKind.sweeping {r : Except Fault SweepCount}
    (h : DealsKind w k filters count kind steps r) : ∀ x ∈ steps, Sweeping k filters x := by
  cases h with
  | unlisted h => exact List.forall_mem_singleton.mpr (.listed _ kind)
  | listed h =>
    exact List.forall_mem_cons.mpr
      ⟨.listed _ kind, h.forall_mem (fun h => h.sweeping filters)⟩

theorem Sweeps.sweeping {r : Except Fault SweepCount} (h : Sweeps w k filters steps r) :
    ∀ x ∈ steps, Sweeping k filters x := by
  cases h with
  | failed h => exact h.forall_mem DealsKind.sweeping
  | finished h =>
    exact List.forall_mem_append.mpr ⟨h.forall_mem DealsKind.sweeping,
      List.forall_mem_singleton.mpr (.line (.wrote _ _ _))⟩

end Sweep

end Mooring
