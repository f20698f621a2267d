import Mooring.Proofs.Sweep.Accounts

/-! The two ways in which a sweep ends. It goes on from a removal only where the resource is
removed, gone or refused; any other trouble ends it where it stands, and what is left on the lists
stays. -/

namespace Mooring.Sweep

open Mooring.Action

variable {w : World} {k : Client} {filters : List String} {kind : ResourceKind}
  {count : SweepCount} {steps : List Step}

/-! ### Trouble -/

/-- A kind that is listed ends in trouble at one of its resources. -/
theorem exists_stop_of_dealsKind
    (hw : ∀ filters past kind problem, w.listing k filters past kind ≠ .error problem)
    {fault : Fault} (h : DealsKind w k filters count kind steps (.error fault)) :
    ∃ (before : List Outcome) (id : ResourceId) (problem : Problem) (after : List ResourceId),
      (∀ outcome ∈ before, Settled outcome.2) ∧ problem.isRefusal = false ∧
      fault = .of problem ∧
      steps = listed k filters (.ok (before.map (·.1) ++ id :: after)) kind ::
        (before.flatMap (dealt k kind) ++ [removed k id (.error problem) kind]) := by
  cases h with
  | unlisted h => exact absurd h (hw _ _ _ _)
  | listed h =>
    obtain ⟨ids, id, after, count', passed, last, rfl, rfl, hpassed, hlast⟩ := h.exists_stop
    obtain ⟨before, rfl, hsettled, rfl, -⟩ :=
      hpassed.exists_pairs (fun _ => Settled) (fun id answer => dealt k kind (id, answer))
        (fun count _ answer => countAfter count kind answer) exists_dealt
    cases hlast with
    | @failed past problem h hp => exact ⟨before, id, problem, after, hsettled, hp, rfl, rfl⟩

/-- How a sweep ends whose listings all come. It finishes if every removal is settled; it stops at
the first one that is not, with all before it dealt with and nothing after it begun. -/
inductive Ends (k : Client) (filters : List String) :
    List Step → Except Fault SweepCount → Prop
  | finished {found : ResourceKind → List Outcome} {count : SweepCount} {steps : List Step}
    (hfound : ∀ kind, ∀ outcome ∈ found kind, Settled outcome.2)
    (haccounts : Accounts k filters found count steps) : Ends k filters steps (.ok count)
  | stopped {passed : List (ResourceKind × List Outcome)} {kind : ResourceKind}
    {later : List ResourceKind} {before : List Outcome} {id : ResourceId} {problem : Problem}
    {after : List ResourceId} (hkinds : kinds = passed.map (·.1) ++ kind :: later)
    (hpassed : ∀ p ∈ passed, ∀ outcome ∈ p.2, Settled outcome.2)
    (hbefore : ∀ outcome ∈ before, Settled outcome.2) (hproblem : problem.isRefusal = false) :
    Ends k filters
      (passed.flatMap (fun p => course k filters p.1 p.2) ++
        listed k filters (.ok (before.map (·.1) ++ id :: after)) kind ::
          (before.flatMap (dealt k kind) ++ [removed k id (.error problem) kind]))
      (.error (.of problem))

theorem ends_of_sweeps
    (hw : ∀ filters past kind problem, w.listing k filters past kind ≠ .error problem)
    {r : Except Fault SweepCount} (h : Sweeps w k filters steps r) : Ends k filters steps r := by
  cases h with
  | finished h =>
    obtain ⟨found, hfound, rfl, rfl⟩ := exists_found h
    exact .finished hfound (accounts_countFound hfound)
  | failed h =>
    obtain ⟨earlier, kind, later, count, _, _, hkinds, rfl, hearlier, hkind⟩ := h.exists_stop
    obtain ⟨passed, rfl, hpassed, rfl, -⟩ := hearlier.exists_pairs _ _ _ exists_course
    obtain ⟨before, id, problem, after, hbefore, hproblem, rfl, rfl⟩ :=
      exists_stop_of_dealsKind hw hkind
    exact .stopped hkinds hpassed hbefore hproblem

/-! ### Removals among the steps -/

/-- Every removal among the steps is settled. -/
def AllSettled (k : Client) (steps : List Step) : Prop :=
  ∀ id answer kind, removed k id answer kind ∈ steps → Settled answer

theorem removed_not_mem_warning (id id' : ResourceId) (answer answer' : Except Problem Unit)
    (kind kind' : ResourceKind) : removed k id answer kind ∉ warning kind' id' answer' := by
  intro h
  cases answer' with
  | ok u => cases h
  | error problem =>
    simp only [warning] at h
    split at h
    · rw [List.mem_singleton] at h
      cases kind <;> cases h
    · cases h

theorem settled_of_mem_dealt {outcomes : List Outcome} {id : ResourceId}
    {answer : Except Problem Unit} {kind' : ResourceKind}
    (h : ∀ outcome ∈ outcomes, Settled outcome.2)
    (hmem : removed k id answer kind' ∈ outcomes.flatMap (dealt k kind)) : Settled answer := by
  obtain ⟨outcome, houtcome, hdealt⟩ := List.mem_flatMap.mp hmem
  rcases List.mem_cons.mp hdealt with heq | hwarning
  · exact (removed_inj heq).2.2.1 ▸ h outcome houtcome
  · exact absurd hwarning (removed_not_mem_warning _ _ _ _ _ _)

theorem Ends.allSettled_iff {r : Except Fault SweepCount} (h : Ends k filters steps r) :
    AllSettled k steps ↔ ∃ count, r = .ok count := by
  cases h with
  | @finished found count _ hfound haccounts =>
    refine ⟨fun _ => ⟨count, rfl⟩, fun _ id answer kind hmem => ?_⟩
    rw [haccounts.course, List.mem_append] at hmem
    rcases hmem with hmem | hsummary
    · obtain ⟨kind', -, hmem⟩ := List.mem_flatMap.mp hmem
      rcases List.mem_cons.mp hmem with hlisted | hdealt
      · exact absurd hlisted (removed_ne_listed _ _)
      · exact settled_of_mem_dealt (hfound kind') hdealt
    · rw [List.mem_singleton] at hsummary
      cases kind <;> cases hsummary
  | @stopped passed kind later before id problem after hkinds hpassed hbefore hproblem =>
    refine ⟨fun hall => ?_, fun ⟨_, hr⟩ => by cases hr⟩
    have hrefusal := hall id (.error problem) kind (by simp) problem rfl
    rw [hproblem] at hrefusal
    cases hrefusal

/-- A sweep whose listings all come either finishes, with every resource on the lists dealt with
and counted, or stops at the first removal that fails in any other way than by a refusal of the
daemon, in that failure: the resources after it on its list, and the kinds after its own, are not
begun with. It finishes exactly if no removal that it made failed so. -/
theorem ends_of_run
    (hw : ∀ filters past kind problem, w.listing k filters past kind ≠ .error problem)
    {σ : Type} (labels : Record Value) (s : σ) (j : Journal) :
    ∃ r j' steps, run k labels w s j = (r, s, j') ∧ j'.steps w = j.steps w ++ steps ∧
      Ends k (labels.map (fun (key, value) => key ++ "=" ++ value.display)) steps r ∧
      (AllSettled k steps ↔ ∃ count, r = .ok count) := by
  rcases hrun : run k labels w s j with ⟨r, s', j'⟩
  obtain ⟨steps, hsteps, hsweeps, rfl⟩ := (run_does labels s).run hrun
  have hends := ends_of_sweeps hw hsweeps
  exact ⟨r, j', steps, rfl, hsteps, hends, hends.allSettled_iff⟩

def broken : Problem := .os .connection none "connection broken" none

/-- A world with two containers, the first of which the daemon refuses to remove, with a network at
whose removal the connection breaks, and with a volume. -/
def stormy : World :=
  { World.plain (fun _ => none) with
    answer := fun _ c => match c with
      | .client _ (.containersMatching _) => { result := .ok ["first", "second"] }
      | .client _ (.networksMatching _) => { result := .ok ["bridge"] }
      | .client _ (.volumesMatching _) => { result := .ok ["data"] }
      | .client _ (.sweepContainer id) =>
        { result := if id = "first" then .error Connection.conflict else .ok () }
      | .client _ (.removeNetwork _) => { result := .error broken }
      | c => { result := .ok c.plain } }

theorem ends_stormy :
    (∀ filters past kind problem, stormy.listing "own" filters past kind ≠ .error problem) ∧
    ∃ j' steps, run "own" [("kind", .text "a=b")] stormy () {} = (.error (.of broken), (), j') ∧
      j'.steps stormy = steps ∧ Ends "own" ["kind=a=b"] steps (.error (.of broken)) ∧
      ¬ AllSettled "own" steps := by
  have hlists : ∀ filters past kind problem,
      stormy.listing "own" filters past kind ≠ .error problem := by
    intro filters past kind problem h
    cases kind <;> cases h
  obtain ⟨r, j', steps, hrun, hsteps, hends, hall⟩ :=
    ends_of_run hlists [("kind", .text "a=b")] () {}
  obtain rfl : .error (.of broken) = r := congrArg (·.1) hrun
  refine ⟨hlists, j', steps, hrun, hsteps, hends, fun h => ?_⟩
  obtain ⟨_, hr⟩ := hall.mp h
  cases hr

/-- The refusal is counted and passed over, but the broken connection ends the sweep: the volumes
are never listed, and the sweep does not tell what it removed. -/
theorem unfinished_stormy :
    (∀ filters past kind problem, stormy.listing "own" filters past kind ≠ .error problem) ∧
    ∃ j', run "own" [("kind", .text "a=b")] stormy () {} = (.error (.of broken), (), j') ∧
      j'.steps stormy =
        course "own" ["kind=a=b"] .container
            [("first", .error Connection.conflict), ("second", .ok ())] ++
          [listed "own" ["kind=a=b"] (.ok ["bridge"]) .network,
            removed "own" "bridge" (.error broken) .network] := by
  refine ⟨fun filters past kind problem h => ?_, _, rfl, rfl⟩
  cases kind <;> cases h

end Mooring.Sweep
