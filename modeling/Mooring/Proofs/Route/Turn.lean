import Mooring.Proofs.Route.Reach

/-! The turns that candidates have one after another. A candidate that does not apply is skipped;
one that applies works if the daemon is reached over it, and fails as the attempt to reach it does.
A turn that does not end in work leaves its candidate unprobed and no client open. -/

namespace Mooring.Route

open Mooring.Action

/-- A candidate, and the journal at the beginning of its turn. -/
structure Turn where
  candidate : Route
  journal : Journal

/-- The journal after candidates have all had their turns. -/
def afterTurns (w : World) : List Route → Journal → Journal
  | [], j => j
  | candidate :: candidates, j => afterTurns w candidates (tryOut w candidate j).2.2

/-- The turns of candidates. -/
def turns (w : World) : List Route → Journal → List Turn
  | [], _ => []
  | candidate :: candidates, j =>
    ⟨candidate, j⟩ :: turns w candidates (tryOut w candidate j).2.2

namespace Turn

variable {w : World} {t : Turn}

def description (w : World) (t : Turn) : String := t.candidate.describeIn w.environment

/-- What the candidate says to whether it applies. -/
def applicable (w : World) (t : Turn) : Except Fault Bool :=
  (isApplicable w t.candidate t.journal).1

/-- The journal at the beginning of the candidate's probe. -/
def probing (w : World) (t : Turn) : Journal :=
  (isApplicable w t.candidate t.journal).2.2.add
    (.logged .debug "Probing connection strategy" [("strategy", .text (t.description w))])

/-- What the attempt to reach the daemon over the candidate comes to. -/
def reached (w : World) (t : Turn) : Except Fault (Client × Option String) × Route × Journal :=
  reach w t.candidate (t.probing w)

/-- The candidate applies, and the daemon is reached over it. -/
def Works (w : World) (t : Turn) : Prop :=
  t.applicable w = .ok true ∧ ∃ found, (t.reached w).1 = .ok found

/-- The candidate says whether it applies, but does not work. -/
def Declines (w : World) (t : Turn) : Prop :=
  (∃ applies, t.applicable w = .ok applies) ∧ ¬ t.Works w

def applies (w : World) (t : Turn) : Bool :=
  match t.applicable w with
  | .ok applies => applies
  | .error _ => false

/-- What the turn shows: whether the candidate applies is asked once, and only one that applies is
asked for a client. -/
def marks (w : World) (t : Turn) : List Mark :=
  t.candidate.asking ++
    if t.applies w then .probed (t.description w) :: t.candidate.creating
    else [.skipped (t.description w)]

/-! ### What a turn comes to -/

/-- A candidate that cannot say whether it applies ends the search. -/
theorem tryOut_of_unknown {fault : Fault} (h : t.applicable w = .error fault) :
    ∃ j', tryOut w t.candidate t.journal = (.error fault, t.candidate, j') ∧
      w.Allows fault ∧ j'.books w = t.journal.books w ++ { marks := t.candidate.asking } := by
  obtain ⟨result, j', hrun, hbooks, hallowed⟩ := isApplicable_cases w t.candidate t.journal
  rw [applicable, hrun] at h
  subst h
  exact ⟨j', run_bind_error hrun, hallowed fault rfl, hbooks⟩

theorem tryOut_of_inapplicable (h : t.applicable w = .ok false) :
    ∃ j', tryOut w t.candidate t.journal = (.ok .skipped, t.candidate, j') ∧
      j'.books w = t.journal.books w ++ { marks := t.marks w } := by
  obtain ⟨result, j', hrun, hbooks, -⟩ := isApplicable_cases w t.candidate t.journal
  have happlies : t.applies w = false := by rw [applies, h]
  rw [applicable, hrun] at h
  subst h
  refine ⟨_, run_bind_ok hrun, ?_⟩
  rw [Journal.books_add, hbooks, Event.entry_skipped]
  simp [marks, happlies, description, Books.append_def]

theorem books_of_probing (w : World) (t : Turn) :
    (t.probing w).books w = t.journal.books w ++
      { marks := t.candidate.asking ++ [.probed (t.description w)] } := by
  obtain ⟨result, j', hrun, hbooks, -⟩ := isApplicable_cases w t.candidate t.journal
  rw [probing, hrun, Journal.books_add, Event.entry_probed, hbooks]
  simp [Books.append_def]

/-- The run of a turn up to the probe. -/
theorem tryOut_of_applicable (h : t.applicable w = .ok true) :
    tryOut w t.candidate t.journal =
      (do
        match ← attempt probe with
        | .ok _ =>
          log .info "Found Docker environment" [("strategy", .text (t.description w))]
          return .works
        | .error fault =>
          if !fault.problem.isException then fail fault
          log .debug "Connection strategy failed"
            [("strategy", .text (t.description w)), ("error", .text fault.message)]
          return .failed (attemptLine (t.description w) fault.problem) : Action Route Trial)
        w t.candidate (t.probing w) := by
  obtain ⟨result, j', hrun, -, -⟩ := isApplicable_cases w t.candidate t.journal
  rw [applicable, hrun] at h
  subst h
  rw [probing, hrun, tryOut, run_bind_ok hrun]
  rfl

/-- A candidate over which the daemon is reached works. It keeps the client, whose request timeout
is set last. -/
theorem tryOut_of_reached (h : t.applicable w = .ok true) {k : Client} {host : Option String}
    {r : Route} {j : Journal} (hr : t.reached w = (.ok (k, host), r, j)) :
    ∃ j', tryOut w t.candidate t.journal =
        (.ok .works, { r with held := some k, host }, j') ∧
      r.bare = t.candidate.bare ∧
      j'.books w = t.journal.books w ++
        { marks := t.marks w ++ [.limited k t.candidate.settings.timeout], opened := [k] } := by
  have happlies : t.applies w = true := by rw [applies, h]
  obtain ⟨hkept, hbooks⟩ := books_of_reached hr
  obtain ⟨-, hsettings, -, -⟩ := bare_eq_iff.mp hkept
  rw [tryOut_of_applicable h, run_bind_ok (run_attempt _), probe_of_reached hr]
  refine ⟨_, rfl, hkept, ?_⟩
  have hfound : (Event.logged .info "Found Docker environment"
    [("strategy", .text (t.description w))]).isAside = true :=
      Event.isAside_logged (by decide) (by decide)
  rw [Journal.books_of_aside (.add hfound _) w, Journal.books_add, Event.entry_limited, hbooks,
    books_of_probing, hsettings]
  simp [marks, happlies, Books.append_def]

/-- A candidate over which the daemon is not reached fails, and is left unprobed. -/
theorem tryOut_of_unreached (hw : w.Calm) (h : t.applicable w = .ok true) {fault : Fault}
    {r : Route} {j : Journal} (hr : t.reached w = (.error fault, r, j)) :
    ∃ (opened : Option Client) (j' : Journal), tryOut w t.candidate t.journal =
        (.ok (.failed (attemptLine (t.description w) fault.problem)), r, j') ∧
      r.bare = t.candidate.bare ∧
      j'.books w = t.journal.books w ++
        { marks := t.marks w, opened := opened.toList, closed := opened.toList } := by
  have happlies : t.applies w = true := by rw [applies, h]
  obtain ⟨opened, j', hprobe, hkept, hf, hbooks⟩ := probe_of_unreached hw hr
  refine ⟨opened, j'.add (.logged .debug "Connection strategy failed"
    [("strategy", .text (t.description w)), ("error", .text fault.message)]), ?_, hkept, ?_⟩
  · rw [tryOut_of_applicable h, run_bind_ok (run_attempt _), hprobe]
    simp only [hf, Bool.not_true, Bool.false_eq_true, if_false]
    rfl
  · have hfailed : (Event.logged .debug "Connection strategy failed"
      [("strategy", .text (t.description w)), ("error", .text fault.message)]).isAside = true :=
        Event.isAside_logged (by decide) (by decide)
    rw [Journal.books_of_aside (.add hfailed _) w, hbooks, books_of_probing]
    simp [marks, happlies, Books.append_def]

end Turn

end Mooring.Route
