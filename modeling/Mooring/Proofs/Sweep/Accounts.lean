import Mooring.Proofs.CommandLine.Console
import Mooring.Proofs.Connection.Inside
import Mooring.Proofs.Sweep.Course

/-! The accounts of a sweep: every resource that is listed is removed, gone already or refused, and
the count tells how many of them were. -/

namespace Mooring

open Mooring.Action

/-- A world in which every listing comes, and in which the daemon answers every removal: it removes
the resource, has none of that name or refuses. -/
structure World.Obliging (w : World) (k : Client) : Prop where
  lists : ∀ filters past kind problem, w.listing k filters past kind ≠ .error problem
  answers : ∀ id past kind, Sweep.Settled (w.removal k id past kind)

/-- How many resources of a kind were removed. -/
def SweepCount.of (count : SweepCount) : ResourceKind → Nat
  | .container => count.containers
  | .network => count.networks
  | .volume => count.volumes
  | .image => count.images

namespace Sweep

variable {w : World} {k : Client} {filters : List String} {kind : ResourceKind}
  {count : SweepCount} {outcomes : List Outcome}

/-- How many removals were answered so. -/
def tally (is : Except Problem Unit → Bool) (outcomes : List Outcome) : Nat :=
  outcomes.countP (fun outcome => is outcome.2)

/-- The count after all resources of a kind. -/
def countAll (count : SweepCount) (kind : ResourceKind) (outcomes : List Outcome) : SweepCount :=
  outcomes.foldl (fun count outcome => countAfter count kind outcome.2) count

/-- The count of a sweep. -/
def countFound (found : ResourceKind → List Outcome) : SweepCount :=
  kinds.foldl (fun count kind => countAll count kind (found kind)) {}

/-- The steps of a kind. -/
def course (k : Client) (filters : List String) (kind : ResourceKind) (outcomes : List Outcome) :
    List Step :=
  listed k filters (.ok (outcomes.map (·.1))) kind :: outcomes.flatMap (dealt k kind)

theorem exists_dealt {id : ResourceId} {steps : List Step} {count' : SweepCount}
    (h : Deals w k kind count id steps (.ok count')) :
    ∃ answer, Settled answer ∧ steps = dealt k kind (id, answer) ∧
      count' = countAfter count kind answer := by
  cases h with
  | settled h => exact ⟨_, h, rfl, rfl⟩

theorem exists_course {steps : List Step} {count' : SweepCount}
    (h : DealsKind w k filters count kind steps (.ok count')) :
    ∃ outcomes : List Outcome, (∀ outcome ∈ outcomes, Settled outcome.2) ∧
      steps = course k filters kind outcomes ∧ count' = countAll count kind outcomes := by
  cases h with
  | listed h =>
    obtain ⟨outcomes, rfl, hsettled, rfl, rfl⟩ :=
      h.exists_pairs (fun _ => Settled) (fun id answer => dealt k kind (id, answer))
        (fun count _ answer => countAfter count kind answer) exists_dealt
    exact ⟨outcomes, hsettled, rfl, rfl⟩

theorem exists_found {steps : List Step}
    (h : Folds (DealsKind w k filters) {} kinds steps (.ok count)) :
    ∃ found : ResourceKind → List Outcome, (∀ kind, ∀ outcome ∈ found kind, Settled outcome.2) ∧
      steps = kinds.flatMap (fun kind => course k filters kind (found kind)) ∧
      count = countFound found := by
  obtain ⟨pairs, hpairs, hsettled, rfl, rfl⟩ := h.exists_pairs _ _ _ exists_course
  -- the kinds are told apart by their places, so what was found becomes a function of the kind
  match pairs, hpairs with
  | [(_, containers), (_, networks), (_, volumes), (_, images)], rfl =>
    simp only [List.forall_mem_cons] at hsettled
    obtain ⟨hcontainers, hnetworks, hvolumes, himages, -⟩ := hsettled
    refine ⟨fun
      | .container => containers
      | .network => networks
      | .volume => volumes
      | .image => images, fun kind => ?_, rfl, rfl⟩
    cases kind
    · exact hcontainers
    · exact hnetworks
    · exact hvolumes
    · exact himages

/-! ### Worlds that oblige -/

theorem exists_ok_of_deals (hw : w.Obliging k) {id : ResourceId} {steps : List Step}
    {r : Except Fault SweepCount} (h : Deals w k kind count id steps r) :
    ∃ count', r = .ok count' := by
  cases h with
  | settled h => exact ⟨_, rfl⟩
  | failed h hp =>
    rw [hw.answers _ _ _ _ h] at hp
    cases hp

theorem exists_ok_of_dealsKind (hw : w.Obliging k) {steps : List Step}
    {r : Except Fault SweepCount} (h : DealsKind w k filters count kind steps r) :
    ∃ count', r = .ok count' := by
  cases h with
  | unlisted h => exact absurd h (hw.lists _ _ _ _)
  | listed h => exact h.exists_ok (exists_ok_of_deals hw)

/-! ### Counts -/

theorem of_countAfter (count : SweepCount) (kind kind' : ResourceKind)
    {answer : Except Problem Unit} (h : Settled answer) :
    (countAfter count kind answer).of kind' =
      count.of kind' + if kind' = kind ∧ answer.toBool then 1 else 0 := by
  cases answer with
  | ok u => cases kind <;> cases kind' <;> rfl
  | error problem =>
    have hrefusal := h problem rfl
    cases hgone : problem.isNotFound <;> cases kind' <;>
      simp [countAfter, isRefused, isGone, hrefusal, hgone, SweepCount.kept, SweepCount.of,
        Except.toBool]

theorem failed_countAfter (count : SweepCount) (kind : ResourceKind)
    (answer : Except Problem Unit) :
    (countAfter count kind answer).failed =
      count.failed + if isRefused answer then 1 else 0 := by
  unfold countAfter
  split
  · rfl
  · split
    · rfl
    · cases kind <;> rfl

theorem countAll_cons (count : SweepCount) (kind : ResourceKind) (outcome : Outcome)
    (outcomes : List Outcome) :
    countAll count kind (outcome :: outcomes) =
      countAll (countAfter count kind outcome.2) kind outcomes := rfl

theorem of_countAll (count : SweepCount) (kind kind' : ResourceKind)
    (h : ∀ outcome ∈ outcomes, Settled outcome.2) :
    (countAll count kind outcomes).of kind' =
      count.of kind' + if kind' = kind then tally Except.toBool outcomes else 0 := by
  induction outcomes generalizing count with
  | nil => simp [countAll, tally]
  | cons outcome outcomes ih =>
    obtain ⟨houtcome, houtcomes⟩ := List.forall_mem_cons.mp h
    rw [countAll_cons, ih _ houtcomes, of_countAfter count kind kind' houtcome]
    by_cases hkind : kind' = kind <;> simp [hkind, tally, List.countP_cons]
    omega

theorem failed_countAll (count : SweepCount) (kind : ResourceKind) (outcomes : List Outcome) :
    (countAll count kind outcomes).failed = count.failed + tally isRefused outcomes := by
  induction outcomes generalizing count with
  | nil => rfl
  | cons outcome outcomes ih =>
    rw [countAll_cons, ih, failed_countAfter]
    simp only [tally, List.countP_cons]
    omega

/-- A settled removal is one of three: done, refused, or of what was gone already. -/
theorem add_of_settled {answer : Except Problem Unit} (h : Settled answer) :
    (if answer.toBool = true then 1 else 0) + (if isRefused answer = true then 1 else 0) +
      (if isGone answer = true then 1 else 0) = 1 := by
  cases answer with
  | ok u => rfl
  | error problem =>
    have hrefusal := h problem rfl
    cases hgone : problem.isNotFound <;>
      simp [Except.toBool, isRefused, isGone, hrefusal, hgone]

theorem tally_add (h : ∀ outcome ∈ outcomes, Settled outcome.2) :
    tally Except.toBool outcomes + tally isRefused outcomes + tally isGone outcomes =
      outcomes.length := by
  induction outcomes with
  | nil => rfl
  | cons outcome outcomes ih =>
    obtain ⟨houtcome, houtcomes⟩ := List.forall_mem_cons.mp h
    have ih := ih houtcomes
    have hone := add_of_settled houtcome
    simp only [tally, List.countP_cons, List.length_cons] at ih ⊢
    omega

theorem of_countFound {found : ResourceKind → List Outcome}
    (h : ∀ kind, ∀ outcome ∈ found kind, Settled outcome.2) (kind : ResourceKind) :
    (countFound found).of kind = tally Except.toBool (found kind) := by
  simp only [countFound, kinds, List.foldl_cons, List.foldl_nil, of_countAll _ _ _ (h _)]
  cases kind <;> simp [SweepCount.of]

theorem failed_countFound (found : ResourceKind → List Outcome) :
    (countFound found).failed = tally isRefused (kinds.flatMap found) := by
  simp only [countFound, kinds, List.foldl_cons, List.foldl_nil, failed_countAll]
  simp [tally, Nat.add_assoc]

/-- The accounts of a sweep: the steps it took, and how its count adds up. -/
structure Accounts (k : Client) (filters : List String) (found : ResourceKind → List Outcome)
    (count : SweepCount) (steps : List Step) : Prop where
  course : steps = kinds.flatMap (fun kind =>
      listed k filters (.ok ((found kind).map (·.1))) kind ::
        (found kind).flatMap (dealt k kind)) ++
    [summary count]
  removed : ∀ kind, count.of kind = tally Except.toBool (found kind)
  failed : count.failed = tally isRefused (kinds.flatMap found)
  total : count.containers + count.networks + count.volumes + count.images + count.failed +
    tally isGone (kinds.flatMap found) = (kinds.flatMap found).length

theorem accounts_countFound {found : ResourceKind → List Outcome}
    (hsettled : ∀ kind, ∀ outcome ∈ found kind, Settled outcome.2) :
    Accounts k filters found (countFound found)
      (kinds.flatMap (fun kind => course k filters kind (found kind)) ++
        [summary (countFound found)]) := by
  refine ⟨rfl, of_countFound hsettled, failed_countFound found, ?_⟩
  have hsum : tally Except.toBool (kinds.flatMap found) =
      (countFound found).of .container + (countFound found).of .network +
        (countFound found).of .volume + (countFound found).of .image := by
    simp [of_countFound hsettled, kinds, tally, Nat.add_assoc]
  have hall : ∀ outcome ∈ kinds.flatMap found, Settled outcome.2 := by
    intro outcome houtcome
    obtain ⟨kind, -, hkind⟩ := List.mem_flatMap.mp houtcome
    exact hsettled kind outcome hkind
  rw [failed_countFound, ← tally_add hall, hsum]
  rfl

theorem accounts_of_sweeps (hw : w.Obliging k) {steps : List Step}
    {r : Except Fault SweepCount} (h : Sweeps w k filters steps r) :
    ∃ found count, Accounts k filters found count steps ∧ r = .ok count := by
  cases h with
  | failed h =>
    obtain ⟨_, hr⟩ := h.exists_ok (exists_ok_of_dealsKind hw)
    cases hr
  | finished h =>
    obtain ⟨found, hsettled, rfl, rfl⟩ := exists_found h
    exact ⟨found, _, accounts_countFound hsettled, rfl⟩

/-- The table that a command to prune a session shows. -/
def report (session : String) (count : SweepCount) : Shown :=
  .table ("Pruned session " ++ session) ["Resource", "Count"]
    (count.entries.map (fun (name, n) => [name, Number.natText n]))

/-- A sweep lists each kind once, with a filter for every label, and deals with every resource on
the list once before it goes on to the next kind. It counts what was removed of each kind and what
the daemon refused to remove, with a warning about each; together with what was gone already that is
all that was listed. The command to prune a session then shows a table of the counts and ends in 1
if something was refused, else in 0. A console that shows all that has markup it can read shows the
table if the name of the session is such a text; where a console refuses it, the command ends in
that trouble and in no exit code. -/
theorem accounts_of_run (hw : w.Obliging k) :
    (∀ {σ : Type} (labels : Record Value) (s : σ) (j : Journal), ∃ found count j' steps,
      run k labels w s j = (.ok count, s, j') ∧ j'.steps w = j.steps w ++ steps ∧
      Accounts k (labels.map (fun (key, value) => key ++ "=" ++ value.display)) found count
        steps) ∧
    ∀ (session : String) (c c₁ : Connection) (j j₁ : Journal),
      Connection.client w c j = (.ok k, c₁, j₁) → ∃ found count j' steps answer ended,
        CommandLine.prune session w c j = (ended, c₁, j') ∧
        j'.steps w = j₁.steps w ++ (steps ++ [.showed (report session count) answer]) ∧
        Accounts k ["org.dockerlink=true", "org.dockerlink.sessionId=" ++ session] found count
          steps ∧
        (w.Renders → Text.WellMarked session.toList → answer = .ok ()) ∧
        (answer = .ok () → ∃ code, ended = .ok (.int code) ∧
          (code = 1 ↔ 0 < count.failed) ∧ (code = 0 ↔ count.failed = 0)) ∧
        ∀ problem, answer = .error problem → ended = .error (.of problem) := by
  have runs {σ : Type} (labels : Record Value) (s : σ) (j : Journal) : ∃ found count j' steps,
      run k labels w s j = (.ok count, s, j') ∧ j'.steps w = j.steps w ++ steps ∧
      Accounts k (Session.labelFilters labels) found count steps := by
    rcases hrun : run k labels w s j with ⟨r, s', j'⟩
    obtain ⟨steps, hsteps, hsweeps, rfl⟩ := (run_does labels s).run hrun
    obtain ⟨found, count, haccounts, rfl⟩ := accounts_of_sweeps hw hsweeps
    exact ⟨found, count, j', steps, rfl, hsteps, haccounts⟩
  refine ⟨runs, fun session c c₁ j j₁ hclient => ?_⟩
  obtain ⟨found, count, j', steps, hrun, hsteps, haccounts⟩ := runs (Session.labels session) c₁ j₁
  -- what is left is to show the counts
  have hprune : CommandLine.prune session w c j =
      (do print (report session count)
          return .int (if count.failed = 0 then 0 else 1) : Action Connection Value) w c₁ j' := by
    rw [CommandLine.prune, run_bind_ok hclient, run_bind_ok hrun]
    rfl
  refine ⟨found, count, j'.add (.shown (report session count)), steps,
    w.console j'.events (report session count),
    ((w.console j'.events (report session count)).mapError Fault.of).map
      (fun _ => .int (if count.failed = 0 then 0 else 1)),
    ?_, ?_, haccounts, fun hrenders hsession => ?_, fun hanswer => ?_, fun problem hanswer => ?_⟩
  · rw [hprune, run_bind, run_print]
    cases w.console j'.events (report session count) <;> rfl
  · rw [Journal.steps_add, hsteps, List.append_assoc]
    rfl
  · exact hrenders.shows _ _ (CommandLine.wellMarked_pruned hsession count)
  · rw [hanswer]
    refine ⟨_, rfl, ?_, ?_⟩
    · split <;> omega
    · split <;> omega
  · rw [hanswer]
    rfl

def missing : Problem := .refused .notFound "no such container" (some 404) "Not Found" "" ""

/-- A world with two containers, the second of which is gone when it is to be removed, and with a
network that is in use. Its console is strict. -/
def crowded : World :=
  { World.plain (fun _ => none) with
    console := strictConsole
    answer := fun _ c => match c with
      | .client _ (.containersMatching _) => { result := .ok ["first", "second"] }
      | .client _ (.networksMatching _) => { result := .ok ["bridge"] }
      | .client _ (.sweepContainer id) =>
        { result := if id = "second" then .error missing else .ok () }
      | .client _ (.removeNetwork _) => { result := .error Connection.conflict }
      | c => { result := .ok c.plain } }

theorem obliging_crowded (k : Client) : crowded.Obliging k := by
  refine ⟨fun filters past kind problem h => ?_, fun id past kind problem h => ?_⟩
  · cases kind <;> cases h
  · cases kind with
    | container =>
      simp only [World.removal, crowded] at h
      split at h <;> cases h
      rfl
    | network =>
      cases h
      rfl
    | volume => cases h
    | image => cases h

/-- The network is counted as a failure and the container that was gone is not, so that pruning ends
in 1. -/
theorem accounts_crowded :
    (∃ found j' steps, run "own" [("kind", .text "a=b")] crowded () {} =
        (.ok { containers := 1, failed := 1 }, (), j') ∧ j'.steps crowded = steps ∧
      Accounts "own" ["kind=a=b"] found { containers := 1, failed := 1 } steps) ∧
    crowded.Renders ∧ Text.WellMarked "before".toList ∧ ∃ found count j' steps,
      CommandLine.prune "before" crowded Connection.standing {} =
        (.ok (.int 1), Connection.standing, j') ∧
      j'.steps crowded = steps ++ [.showed (report "before" count) (.ok ())] ∧
      Accounts "own" ["org.dockerlink=true", "org.dockerlink.sessionId=before"] found count steps ∧
      0 < count.failed := by
  have hrenders : crowded.Renders := World.renders_of_strictConsole rfl
  have hsession : Text.WellMarked "before".toList := by decide
  obtain ⟨hsweep, hprune⟩ := accounts_of_run (obliging_crowded "own")
  refine ⟨?_, hrenders, hsession, ?_⟩
  · obtain ⟨found, count, j', steps, hrun, hsteps, haccounts⟩ :=
      hsweep [("kind", .text "a=b")] () {}
    have hcount : (run "own" [("kind", .text "a=b")] crowded () {}).1.toOption =
      some { containers := 1, failed := 1 } := by decide +kernel
    rw [hrun] at hcount
    obtain rfl := Option.some.inj hcount
    exact ⟨found, j', steps, hrun, hsteps, haccounts⟩
  · obtain ⟨found, count, j', steps, answer, ended, hrun, hsteps, haccounts, hshows, hends, -⟩ :=
      hprune "before" Connection.standing Connection.standing {} {} rfl
    obtain rfl := hshows hrenders hsession
    obtain ⟨code, rfl, hfailed, -⟩ := hends rfl
    have hcode : (CommandLine.prune "before" crowded Connection.standing {}).1.toOption.map
      (fun | .int n => n | _ => 0) = some 1 := by decide +kernel
    rw [hrun] at hcode
    obtain rfl : code = 1 := Option.some.inj hcode
    exact ⟨found, count, j', steps, hrun, hsteps, haccounts, hfailed.mp rfl⟩

/-- A tag that closes in the name of a session keeps the command from an exit code. -/
example : (CommandLine.prune "[/b]" crowded Connection.standing {}).1.toOption.isNone := by
  decide +kernel

end Sweep

end Mooring
