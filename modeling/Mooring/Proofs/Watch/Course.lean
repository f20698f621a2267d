import Mooring.Proofs.Plain
import Mooring.Proofs.Sweep.Course
import Mooring.Proofs.Watch.Labels

/-! The course of a watch. Nothing is removed before the input has ended, nothing but what carries
the labels that were given is asked for, and the client is closed once, last of all. -/

namespace Mooring.Watch

open Mooring.Action CommandLine

variable {σ : Type} {w : World} {s : σ} {j : Journal} {texts : List String}
  {labels : Record String}

/-- The requests for input that arrives in such pieces: one for each piece that is not empty, and
one that finds the end. -/
def requests (sizes : List Nat) : List Event :=
  List.replicate ((sizes.takeWhile (· ≠ 0)).length + 1) (.called (.readInput 4096))

theorem requests_cons (size : Nat) (sizes : List Nat) :
    requests (size :: sizes) =
      .called (.readInput 4096) :: if size = 0 then [] else requests sizes := by
  by_cases h : size = 0 <;> simp [requests, h, List.replicate_succ]

theorem run_awaitEnd (sizes : List Nat) (j : Journal) :
    awaitEnd sizes w s j = (.ok (), s, { j with events := j.events ++ requests sizes }) := by
  induction sizes generalizing j with
  | nil => rfl
  | cons size sizes ih =>
    rw [awaitEnd, run_bind_ok (run_tell _), requests_cons]
    split
    · rfl
    · rw [ih, Journal.events_add, List.append_assoc]
      rfl

/-- The journal when the input has ended. -/
def awake (w : World) (labels : Record String) (j : Journal) : Journal :=
  { j with events := j.events ++ requests w.input ++ [.logged .info
      "Parent process exited, pruning resources" [("labels", .ofTextTable labels)]] }

/-- What the labels of a table are for a sweep. -/
def sweepLabels (labels : Record String) : Record Value :=
  labels.map (fun (key, value) => (key, .text value))

/-- The filters of a sweep are the labels as they were written. -/
theorem filters_labelTable (h : ∀ text ∈ texts, IsLabel text) :
    Session.labelFilters (sweepLabels (labelTable texts)) = texts := by
  rw [Session.labelFilters, sweepLabels, List.map_map]
  exact labelTable_joined h

theorem watch_of_unreached {problem : Problem}
    (h : (w.answer (awake w labels j).events .clientFromEnvironment).result = .error problem) :
    watch labels w s j =
      (.error (.of problem), s, (awake w labels j).afterCall w .clientFromEnvironment) := by
  rw [watch, run_bind_ok run_read, run_bind_ok (run_awaitEnd _ _), run_bind_ok (run_log _ _ _)]
  exact run_bind_error (run_call_error h)

/-- How a watch ends that has swept: trouble with closing the client counts first. -/
def endingOf (swept : Except Fault SweepCount) : Except Problem Unit → Except Fault Unit
  | .ok () => swept.map (fun _ => ())
  | .error problem => .error (.of problem)

theorem watch_of_client {k : Client} {swept : Except Fault SweepCount} {s' : σ} {j' : Journal}
    (h : (w.answer (awake w labels j).events .clientFromEnvironment).result = .ok k)
    (hrun : Sweep.run k (sweepLabels labels) w s
      ((awake w labels j).afterCall w .clientFromEnvironment) = (swept, s', j')) :
    watch labels w s j = (endingOf swept (w.answer j'.events (.client k .close)).result, s',
      j'.afterCall w (.client k .close)) := by
  have hswept : attempt (Sweep.run k (sweepLabels labels)) w s
      ((awake w labels j).afterCall w .clientFromEnvironment) = (.ok swept, s', j') := by
    rw [run_attempt, hrun]
  rw [watch, run_bind_ok run_read, run_bind_ok (run_awaitEnd _ _), run_bind_ok (run_log _ _ _)]
  refine (run_bind_ok (run_call_ok h)).trans ((run_bind_ok hswept).trans ?_)
  -- trouble with closing ends the watch before what became of the sweep is looked at
  cases hclose : (w.answer j'.events (.client k .close)).result with
  | error problem => exact run_bind_error (run_call_error hclose)
  | ok u =>
    refine (run_bind_ok (run_call_ok hclose)).trans ?_
    cases swept <;> rfl

theorem endingOf_eq_ok_iff {swept : Except Fault SweepCount} {closed : Except Problem Unit} :
    endingOf swept closed = .ok () ↔ (∃ count, swept = .ok count) ∧ closed = .ok () := by
  cases closed with
  | error problem => simp [endingOf]
  | ok u => cases swept <;> simp [endingOf, Except.map]

theorem execute_of_labels {arguments : List String} (h : readLabels arguments = .ok labels)
    (w : World) (s : σ) (j : Journal) :
    execute arguments w s j =
      ((watch labels w s j).1.map (fun _ => .finished (.int 0)), (watch labels w s j).2) := by
  rw [execute, h]
  rcases hwatch : watch labels w s j with ⟨_ | _, s', j'⟩
  · exact run_bind_error hwatch
  · exact run_bind_ok hwatch

theorem execute_of_halt {halt : Halt} (h : readLabels (labelArguments texts) = .error halt)
    (w : World) (s : σ) (j : Journal) :
    execute (labelArguments texts) w s j = (.ok (.halted halt), s, j) := by
  rw [execute, h]
  rfl

/-- Without a label, or with one that cannot be read, the side process ends before it has read or
asked anything. Otherwise it reads its input to the end, and only then asks for a client; what it
then lists and removes carries the labels just as they were written; and whatever comes of the
sweep, it closes the client once and last. It ends in 0 if nothing of this failed. -/
theorem course_of_labels (texts : List String) (hplain : ∀ text ∈ texts, StartsPlain text) :
    ((texts = [] ∨ ∃ text ∈ texts, '=' ∉ text.toList ∨ text.toList.head? = some '=') →
      ∃ fault, ∀ {σ : Type} (w : World) (s : σ) (j : Journal),
        execute (labelArguments texts) w s j = (.ok (.halted (.usage fault)), s, j)) ∧
    (texts ≠ [] → (∀ text ∈ texts, '=' ∈ text.toList ∧ text.toList.head? ≠ some '=') →
      (texts.map keyOf).Nodup → ∃ labels : Record String,
        labels.map (fun (key, value) => key ++ "=" ++ value) = texts ∧
        ∀ {σ : Type} (w : World) (s : σ) (j : Journal),
          (∀ problem,
            (w.answer (awake w labels j).events .clientFromEnvironment).result = .error problem →
            execute (labelArguments texts) w s j = (.error (.of problem), s,
              (awake w labels j).afterCall w .clientFromEnvironment)) ∧
          ∀ k, (w.answer (awake w labels j).events .clientFromEnvironment).result = .ok k →
            ∃ swept j' steps result,
              Sweep.run k (sweepLabels labels) w s
                ((awake w labels j).afterCall w .clientFromEnvironment) = (swept, s, j') ∧
              j'.steps w =
                ((awake w labels j).afterCall w .clientFromEnvironment).steps w ++ steps ∧
              (∀ x ∈ steps, Sweep.Sweeping k texts x) ∧
              execute (labelArguments texts) w s j =
                (result, s, j'.afterCall w (.client k .close)) ∧
              (result = .ok (.finished (.int 0)) ↔ (∃ count, swept = .ok count) ∧
                (w.answer j'.events (.client k .close)).result = .ok ()) ∧
              ∀ ending, result = .ok ending → ending = .finished (.int 0)) := by
  refine ⟨fun hlame => ?_, fun hne hlabel hkeys => ?_⟩
  · by_cases hlabel : ∀ text ∈ texts, IsLabel text
    · rcases hlame with rfl | ⟨text, hmem, hbad⟩
      · have hread : readLabels (labelArguments []) = .error (.usage .noLabel) :=
          readLabels_of_labels hplain hlabel List.nodup_nil
        exact ⟨.noLabel, execute_of_halt hread⟩
      · obtain ⟨hmark, hkey⟩ := hlabel text hmem
        rcases hbad with hbad | hbad
        · exact absurd hmark hbad
        · exact absurd hbad hkey
    · have hlame : ∃ text ∈ texts, ¬ IsLabel text := by simpa using hlabel
      obtain ⟨text, -, hread⟩ := readLabels_refused hplain hlame
      exact ⟨_, execute_of_halt hread⟩
  · have hread : readLabels (labelArguments texts) = .ok (labelTable texts) := by
      rw [readLabels_of_labels hplain hlabel hkeys, if_neg (by simpa using hne)]
    refine ⟨labelTable texts, labelTable_joined hlabel, fun w s j =>
      ⟨fun problem hunreached => ?_, fun k hclient => ?_⟩⟩
    · rw [execute_of_labels hread, watch_of_unreached hunreached]
      rfl
    · rcases hrun : Sweep.run k (sweepLabels (labelTable texts)) w s
        ((awake w (labelTable texts) j).afterCall w .clientFromEnvironment) with ⟨swept, s', j'⟩
      obtain ⟨steps, hsteps, hsweeps, rfl⟩ := (Sweep.run_does _ s).run hrun
      rw [filters_labelTable hlabel] at hsweeps
      refine ⟨swept, j', steps, (endingOf swept (w.answer j'.events (.client k .close)).result).map
        (fun _ => .finished (.int 0)), rfl, hsteps, hsweeps.sweeping, ?_, ?_, ?_⟩
      · rw [execute_of_labels hread, watch_of_client hclient hrun]
      · rw [← endingOf_eq_ok_iff]
        cases endingOf swept (w.answer j'.events (.client k .close)).result <;> simp [Except.map]
      · intro ending hending
        cases hended : endingOf swept (w.answer j'.events (.client k .close)).result with
        | error fault => rw [hended] at hending; cases hending
        | ok u => rw [hended] at hending; cases hending; rfl

/-- A world in which the input comes in two pieces before it ends, and one container is left. -/
def dusk : World :=
  { World.plain (fun _ => none) with
    input := [4096, 3, 0, 5]
    answer := fun _ c => match c with
      | .client _ (.containersMatching _) => { result := .ok ["left"] }
      | c => { result := .ok c.plain } }

/-- A value may be empty or have an `=` of its own; without a key there is no watch. -/
theorem course_dusk :
    (∃ fault, execute ["--label", "=a"] dusk () {} = (.ok (.halted (.usage fault)), (), {})) ∧
    ∃ (labels : Record String) (j' : Journal) (steps : List Step),
      labels.map (fun (key, value) => key ++ "=" ++ value) = ["kind=a=b", "owner="] ∧
      execute ["--label", "kind=a=b", "--label", "owner="] dusk () {} =
        (.ok (.finished (.int 0)), (), j'.afterCall dusk (.client "client" .close)) ∧
      j'.steps dusk =
        ((awake dusk labels {}).afterCall dusk .clientFromEnvironment).steps dusk ++ steps ∧
      ∀ x ∈ steps, Sweep.Sweeping "client" ["kind=a=b", "owner="] x := by
  obtain ⟨hlame, -⟩ := course_of_labels ["=a"] (by decide)
  obtain ⟨-, hwatch⟩ := course_of_labels ["kind=a=b", "owner="] (by decide)
  refine ⟨?_, ?_⟩
  · obtain ⟨fault, hfault⟩ := hlame (.inr ⟨"=a", by decide, .inr (by decide)⟩)
    exact ⟨fault, hfault dusk () {}⟩
  · obtain ⟨labels, hlabels, hcourse⟩ := hwatch (by decide) (by decide) (by decide)
    obtain ⟨swept, j', steps, result, -, hsteps, hsweeping, hrun, -, hending⟩ :=
      (hcourse dusk () {}).2 "client" rfl
    have hok : (execute (labelArguments ["kind=a=b", "owner="]) dusk () {}).1.toBool = true := by
      decide +kernel
    rw [hrun] at hok
    cases result with
    | error fault => cases hok
    | ok ending =>
      obtain rfl := hending ending rfl
      exact ⟨labels, j', steps, hlabels, hrun, hsteps, hsweeping⟩

end Mooring.Watch
