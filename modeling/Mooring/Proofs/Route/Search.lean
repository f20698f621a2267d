import Mooring.Proofs.Route.FirstWorking

/-! What a search leaves behind, whatever its candidates do: each is asked at most once and in
order, every client that was opened is closed again but the chosen one, and a search that ends
otherwise ends in no interrupt. -/

namespace Mooring

/-- Whether a mark shows that it was asked or looked for whether a route makes sense. -/
def Mark.isAsked : Mark → Bool
  | .asked _ => true
  | .sought _ => true
  | _ => false

namespace Route

open Mooring.Action

variable {σ : Type} {w : World}

theorem asked_asking (r : Route) : r.asking.filter Mark.isAsked = r.asking := by
  unfold asking
  split <;> rfl

theorem Turn.asked_marks (w : World) (t : Turn) :
    (t.marks w).filter Mark.isAsked = t.candidate.asking := by
  have hcreating : t.candidate.creating.filter Mark.isAsked = [] := by
    unfold creating
    split <;> rfl
  rw [Turn.marks, List.filter_append, asked_asking]
  split
  · rw [List.filter_cons_of_neg (by simp [Mark.isAsked]), hcreating, List.append_nil]
  · rw [List.filter_cons_of_neg (by simp [Mark.isAsked]), List.filter_nil, List.append_nil]

theorem Turn.declines_or (w : World) (t : Turn) :
    t.Declines w ∨ t.Works w ∨ ∃ fault, t.applicable w = .error fault := by
  by_cases hworks : t.Works w
  · exact .inr (.inl hworks)
  · cases happlicable : t.applicable w with
    | ok applies => exact .inl ⟨⟨applies, happlicable⟩, hworks⟩
    | error fault => exact .inr (.inr ⟨fault, rfl⟩)

/-- What a search adds to the books, by what it comes to. The asks are the first of those that the
candidates stand for, and a chosen route holds the one client that is left open. -/
structure Searched (candidates : List Route) (chosen : Except Fault Route) (books : Books) :
    Prop where
  asked : books.marks.filter Mark.isAsked <+: candidates.flatMap asking
  opened : books.opened = books.closed ++ (chosen.toOption.bind Route.held).toList
  infos : books.infos = 0
  versions : books.versions = 0
  held : ∀ r, chosen = .ok r → ∃ k, r.held = some k
  exception : ∀ fault, chosen = .error fault → fault.problem.isException = true

theorem Searched.stopped {candidates : List Route} {fault : Fault} {marks : List Mark}
    (hasked : marks.filter Mark.isAsked <+: candidates.flatMap asking)
    (hfault : fault.problem.isException = true) :
    Searched candidates (.error fault) { marks } := by
  refine ⟨hasked, rfl, rfl, rfl, fun r h => ?_, fun fault h => ?_⟩
  · cases h
  · cases h
    exact hfault

theorem Searched.found {candidates : List Route} {r : Route} {k : Client} {marks : List Mark}
    (hasked : marks.filter Mark.isAsked <+: candidates.flatMap asking) (hheld : r.held = some k) :
    Searched candidates (.ok r) { marks, opened := [k] } := by
  refine ⟨hasked, ?_, rfl, rfl, fun r h => ?_, fun fault h => ?_⟩
  · exact (congrArg Option.toList hheld).symm
  · cases h
    exact ⟨k, hheld⟩
  · cases h

/-- The search goes on after a candidate whose clients are closed again. -/
theorem Searched.cons {candidate : Route} {candidates : List Route} {chosen : Except Fault Route}
    {books : Books} (h : Searched candidates chosen books) {marks : List Mark}
    (hmarks : marks.filter Mark.isAsked = candidate.asking) (clients : List Client) :
    Searched (candidate :: candidates) chosen
      ({ marks, opened := clients, closed := clients } ++ books) := by
  refine ⟨?_, ?_, ?_, ?_, h.held, h.exception⟩
  · simp only [Books.append_def, List.filter_append, hmarks, List.flatMap_cons]
    exact (List.prefix_append_right_inj _).mpr h.asked
  · simp only [Books.append_def, h.opened, List.append_assoc]
  · simp only [Books.append_def, h.infos]
  · simp only [Books.append_def, h.versions]

theorem chooseAfter_cases (hw : w.Calm) (candidates : List Route) (attempts : List String) (s : σ)
    (j : Journal) :
    ∃ chosen tried books j', chooseAfter attempts candidates w s j = (.ok (chosen, tried), s, j') ∧
      j'.books w = j.books w ++ books ∧ Searched candidates chosen books := by
  -- only a candidate that declines hands the search on, with its lines added to the attempts
  induction candidates generalizing attempts j with
  | nil =>
    refine ⟨.error (.ofFailure (.noViableConnection attempts)), [], {}, _, rfl, ?_, ?_⟩
    · rw [Journal.books_of_aside (.add (Event.isAside_logged (by decide) (by decide)) j) w,
        Books.append_nil]
    · exact .stopped List.nil_prefix rfl
  | cons candidate candidates ih =>
    let t : Turn := ⟨candidate, j⟩
    have hasked : (t.marks w).filter Mark.isAsked = candidate.asking := t.asked_marks w
    rcases t.declines_or w with hdeclines | hworks | ⟨fault, hunknown⟩
    · obtain ⟨tried, lines, clients, hpass⟩ := Passes.declining hw hdeclines
      obtain ⟨chosen, tried', books, j', hrun, hbooks, hsearched⟩ :=
        ih (attempts ++ lines) (afterTurns w [candidate] j)
      refine ⟨chosen, tried ++ tried', _, j', ?_, ?_, hsearched.cons hasked clients⟩
      · have hpassed := hpass.run attempts candidates s
        rw [run_bind_ok hrun] at hpassed
        exact hpassed
      · have hpassed : (afterTurns w [candidate] j).books w = _ := hpass.books
        rw [hbooks, hpassed, Books.append_assoc]
        simp [turns, t]
    · obtain ⟨k, host, winner, j', -, hwinner, hbooks, hrun⟩ := chooseAfter_of_works hworks
      have hheld : winner.bare.held = some k := by rw [hwinner]
      refine ⟨.ok winner, winner :: candidates, _, j', hrun attempts candidates s, hbooks,
        .found ?_ hheld⟩
      have hlimited : [Mark.limited k t.candidate.settings.timeout].filter Mark.isAsked = [] := rfl
      rw [List.filter_append, hasked, hlimited, List.append_nil, List.flatMap_cons]
      exact List.prefix_append _ _
    · obtain ⟨j', htry, hallowed, hbooks⟩ := Turn.tryOut_of_unknown hunknown
      refine ⟨.error fault, candidate :: candidates, _, j', ?_, hbooks,
        .stopped ?_ (hallowed hw)⟩
      · have htry : tryOut w candidate j = (.error fault, candidate, j') := htry
        rw [chooseAfter, run_bind, run_runOn, htry]
        rfl
      · rw [asked_asking, List.flatMap_cons]
        exact List.prefix_append _ _

end Route

end Mooring
