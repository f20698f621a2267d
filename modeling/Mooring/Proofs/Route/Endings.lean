import Mooring.Proofs.Route.Interrupt
import Mooring.Proofs.Route.Search

/-! How a search ends. Whatever goes wrong with a candidate that applies, the next one has its turn,
and so the search comes to the first that works or past all of them. There is one other ending: a
candidate that fails to say whether it applies ends the search with its own trouble. -/

namespace Mooring.Route

open Mooring.Action

variable {σ : Type} {w : World} {candidate : Route} {candidates : List Route} {j : Journal}
  {t : Turn}

/-- The turn of a candidate that all before it have declined. -/
def HasTurn (w : World) (candidates : List Route) (j : Journal) (t : Turn) : Prop :=
  ∃ earlier later, candidates = earlier ++ t.candidate :: later ∧
    t.journal = afterTurns w earlier j ∧ ∀ t' ∈ turns w earlier j, t'.Declines w

theorem HasTurn.here (w : World) (candidate : Route) (candidates : List Route) (j : Journal) :
    HasTurn w (candidate :: candidates) j ⟨candidate, j⟩ :=
  ⟨[], candidates, rfl, rfl, by simp [turns]⟩

theorem HasTurn.later (hfirst : Turn.Declines w ⟨candidate, j⟩)
    (h : HasTurn w candidates (tryOut w candidate j).2.2 t) :
    HasTurn w (candidate :: candidates) j t := by
  obtain ⟨earlier, later, rfl, hjournal, hearlier⟩ := h
  exact ⟨candidate :: earlier, later, rfl, hjournal, List.forall_mem_cons.mpr ⟨hfirst, hearlier⟩⟩

/-- All candidates decline, or one of them does not that has its turn. -/
theorem declining_or_hasTurn (w : World) (candidates : List Route) (j : Journal) :
    (∀ t ∈ turns w candidates j, t.Declines w) ∨
      ∃ t, HasTurn w candidates j t ∧ (t.Works w ∨ ∃ fault, t.applicable w = .error fault) := by
  induction candidates generalizing j with
  | nil => exact .inl (by simp [turns])
  | cons candidate candidates ih =>
    rcases Turn.declines_or w ⟨candidate, j⟩ with hfirst | hother
    · rcases ih (tryOut w candidate j).2.2 with hdecline | ⟨t, hturn, hother⟩
      · exact .inl (List.forall_mem_cons.mpr ⟨hfirst, hdecline⟩)
      · exact .inr ⟨t, hturn.later hfirst, hother⟩
    · exact .inr ⟨_, .here w candidate candidates j, hother⟩

/-! ### The endings -/

/-- What a search comes to: the first candidate that works, nothing but a line for each that
applies, or the trouble of one that cannot say whether it applies. -/
inductive SearchEnds (w : World) (candidates : List Route) (j : Journal) :
    Except Fault Route → Prop
  | found {t : Turn} {k : Client} {host : Option String} {winner : Route}
    (hturn : HasTurn w candidates j t) (happlicable : t.applicable w = .ok true)
    (hreached : (t.reached w).1 = .ok (k, host))
    (hwinner : winner.bare = { t.candidate with held := some k, host, machine := none }) :
    SearchEnds w candidates j (.ok winner)
  | exhausted {lines : List String} (hdecline : ∀ t ∈ turns w candidates j, t.Declines w)
    (hreports : List.Forall₂ (Turn.Reports w)
      ((turns w candidates j).filter (Turn.applies w)) lines) :
    SearchEnds w candidates j (.error (.ofFailure (.noViableConnection lines)))
  | balked {t : Turn} {fault : Fault} (hturn : HasTurn w candidates j t)
    (hfault : t.applicable w = .error fault) : SearchEnds w candidates j (.error fault)

/-- The search ends as the turn does that those before it have left to take. -/
theorem choose_of_hasTurn (hw : w.Calm) (hturn : HasTurn w candidates j t) (s : σ)
    {chosen : Except Fault Route} {r : Route} {j' : Journal}
    (hrun : ∀ (attempts : List String) (rest : List Route),
      chooseAfter attempts (t.candidate :: rest) w s t.journal = (.ok (chosen, r :: rest), s, j')) :
    ∃ tried, choose candidates w s j = (.ok (chosen, tried), s, j') := by
  obtain ⟨earlier, later, rfl, hjournal, hdecline⟩ := hturn
  obtain ⟨tried, lines, clients, hpass⟩ := passes_of_declining hw earlier j hdecline
  rw [hjournal] at hrun
  refine ⟨tried ++ r :: later, ?_⟩
  rw [choose, hpass.run, run_bind_ok (hrun ([] ++ lines) later)]
  rfl

theorem choose_of_works (hw : w.Calm) (hturn : HasTurn w candidates j t) (hworks : t.Works w)
    (s : σ) :
    ∃ k host winner tried j', choose candidates w s j = (.ok (.ok winner, tried), s, j') ∧
      (t.reached w).1 = .ok (k, host) ∧
      winner.bare = { t.candidate with held := some k, host, machine := none } := by
  obtain ⟨k, host, winner, j', hreached, hwinner, -, hrun⟩ := chooseAfter_of_works hworks
  obtain ⟨tried, hchoose⟩ :=
    choose_of_hasTurn hw hturn s (fun attempts rest => hrun attempts rest s)
  exact ⟨k, host, winner, tried, j', hchoose, hreached, hwinner⟩

theorem choose_of_unknown (hw : w.Calm) (hturn : HasTurn w candidates j t) {fault : Fault}
    (hfault : t.applicable w = .error fault) (s : σ) :
    ∃ tried j', choose candidates w s j = (.ok (.error fault, tried), s, j') := by
  obtain ⟨j', htry, -⟩ := Turn.tryOut_of_unknown hfault
  obtain ⟨tried, hchoose⟩ := choose_of_hasTurn hw hturn s
    (fun attempts rest => chooseAfter_of_ended htry attempts rest s)
  exact ⟨tried, j', hchoose⟩

theorem choose_of_declining (hw : w.Calm) (hdecline : ∀ t ∈ turns w candidates j, t.Declines w)
    (s : σ) :
    ∃ lines tried j', choose candidates w s j =
        (.ok (.error (.ofFailure (.noViableConnection lines)), tried), s, j') ∧
      List.Forall₂ (Turn.Reports w) ((turns w candidates j).filter (Turn.applies w)) lines := by
  obtain ⟨tried, lines, clients, hpass⟩ := passes_of_declining hw candidates j hdecline
  have hrun := hpass.run [] [] s
  rw [List.append_nil] at hrun
  refine ⟨lines, tried, (afterTurns w candidates j).add
    (.logged .error "Could not find a valid Docker environment" [("failures", .ofTexts lines)]),
    ?_, hpass.reports⟩
  rw [choose, hrun, run_bind, chooseAfter, List.nil_append]
  simp only [run_bind, run_log, run_pure, List.append_nil]

/-- A search comes to an end of one of three kinds, and to the candidate that works as soon as one
that works has its turn, whatever went wrong with those before it. Where every candidate that has
its turn says whether it applies, the search finds one or fails with the attempts it made; nothing
that goes wrong with a client, with its host or with its closing comes out of it. -/
theorem choose_ends (hw : w.Calm) (candidates : List Route) (s : σ) (j : Journal) :
    ∃ chosen tried j', choose candidates w s j = (.ok (chosen, tried), s, j') ∧
      SearchEnds w candidates j chosen ∧
      (∀ t, HasTurn w candidates j t → t.Works w → ∃ k host winner, chosen = .ok winner ∧
        (t.reached w).1 = .ok (k, host) ∧
        winner.bare = { t.candidate with held := some k, host, machine := none }) ∧
      ((∀ t, HasTurn w candidates j t → ∃ applies, t.applicable w = .ok applies) →
        (∃ winner, chosen = .ok winner) ∨
          ∃ lines, chosen = .error (.ofFailure (.noViableConnection lines))) := by
  obtain ⟨chosen, tried, j', hrun, hends⟩ : ∃ chosen tried j',
      choose candidates w s j = (.ok (chosen, tried), s, j') ∧
        SearchEnds w candidates j chosen := by
    rcases declining_or_hasTurn w candidates j with
      hdecline | ⟨t, hturn, hworks | ⟨fault, hfault⟩⟩
    · obtain ⟨lines, tried, j', hrun, hreports⟩ := choose_of_declining hw hdecline s
      exact ⟨_, tried, j', hrun, .exhausted hdecline hreports⟩
    · obtain ⟨k, host, winner, tried, j', hrun, hreached, hwinner⟩ :=
        choose_of_works hw hturn hworks s
      exact ⟨_, tried, j', hrun, .found hturn hworks.1 hreached hwinner⟩
    · obtain ⟨tried, j', hrun⟩ := choose_of_unknown hw hturn hfault s
      exact ⟨_, tried, j', hrun, .balked hturn hfault⟩
  refine ⟨chosen, tried, j', hrun, hends, fun t hturn hworks => ?_, fun hknown => ?_⟩
  · obtain ⟨k, host, winner, tried', j'', hrun', hreached, hwinner⟩ :=
      choose_of_works hw hturn hworks s
    rw [hrun] at hrun'
    cases hrun'
    exact ⟨k, host, winner, rfl, hreached, hwinner⟩
  · cases hends with
    | found _ _ _ _ => exact .inl ⟨_, rfl⟩
    | exhausted _ _ => exact .inr ⟨_, rfl⟩
    | balked hturn hfault =>
      obtain ⟨applies, happlies⟩ := hknown _ hturn
      rw [hfault] at happlies
      cases happlies

/-- A world in which one route has no client to give, one client does not answer and cannot be
closed, the host of one cannot be found, and one route may not even be asked. -/
def faultyWorld : World := World.plain (fun c => match c with
  | .route "shy" .createClient => some (.client .general "no such pipe")
  | .client "lame" .ping => some (.os .timeout none "timed out" none)
  | .client "lame" .close => some (.runtime "already closed")
  | .route "lost" .hostAddress => some (.runtime "no host")
  | .route "barred" .isApplicable => some (.os .permission (some 13) "Permission denied" none)
  | _ => none)

theorem calm_faultyWorld : faultyWorld.Calm := by
  refine World.calm_plain (fun c problem h => ?_)
  split at h <;> cases h <;> rfl

theorem Turn.Declines.of_unreached {fault : Fault} (happlicable : t.applicable w = .ok true)
    (hreached : (t.reached w).1 = .error fault) : t.Declines w := by
  refine ⟨⟨true, happlicable⟩, fun ⟨_, found, hfound⟩ => ?_⟩
  rw [hreached] at hfound
  cases hfound

/-- Three candidates fail at different points, and the search comes to the fourth. -/
theorem choose_after_failures : ∃ winner tried j',
    choose [supplied "shy", supplied "lame", supplied "lost", supplied "sound", supplied "barred"]
      faultyWorld () {} = (.ok (.ok winner, tried), (), j') ∧
    winner.bare = { supplied "sound" with held := some "sound", host := some "localhost" } := by
  have hturn : HasTurn faultyWorld [supplied "shy", supplied "lame", supplied "lost",
      supplied "sound", supplied "barred"] {} ⟨supplied "sound", _⟩ :=
    .later (.of_unreached rfl rfl) (.later (.of_unreached rfl rfl)
      (.later (.of_unreached rfl rfl) (.here _ _ _ _)))
  obtain ⟨chosen, tried, j', hrun, -, hworks, -⟩ :=
    choose_ends calm_faultyWorld _ () {}
  obtain ⟨k, host, winner, rfl, hreached, hwinner⟩ := hworks _ hturn ⟨rfl, _, rfl⟩
  have hfound : (Except.ok ("sound", some "localhost") : Except Fault _) = .ok (k, host) :=
    hreached
  cases hfound
  exact ⟨winner, tried, j', hrun, hwinner⟩

/-- A candidate that may not be asked ends the search with its own trouble, though the next one
works. -/
theorem choose_barred : ∃ fault tried j',
    choose [supplied "barred", supplied "sound"] faultyWorld () {} =
      (.ok (.error fault, tried), (), j') ∧
    fault = .of (.os .permission (some 13) "Permission denied" none) ∧
    (∀ lines, fault ≠ .ofFailure (.noViableConnection lines)) ∧
    Turn.Works faultyWorld
      ⟨supplied "sound", afterTurns faultyWorld [supplied "barred"] {}⟩ := by
  obtain ⟨tried, j', hrun⟩ := choose_of_unknown calm_faultyWorld
    (HasTurn.here faultyWorld (supplied "barred") [supplied "sound"] {}) rfl ()
  exact ⟨_, tried, j', hrun, rfl, nofun, rfl, _, rfl⟩

end Mooring.Route
