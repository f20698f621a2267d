import Mathlib.Data.List.Forall2
import Mooring.Proofs.Plain
import Mooring.Proofs.Route.Turn

/-! The first candidate that works is chosen. Those before it are passed over: each adds its turn to
the books and, if it applies, one line to the list of attempts. Those after it play no part. -/

namespace Mooring.Route

open Mooring.Action

variable {σ : Type} {w : World}

/-- The line about a candidate that applies but fails: what it is, and the class and the text of the
problem. -/
def Turn.Reports (w : World) (t : Turn) (line : String) : Prop :=
  ∃ fault, (t.reached w).1 = .error fault ∧
    line = t.description w ++ ": " ++ fault.problem.kindName ++ " (" ++ fault.problem.message ++ ")"

/-- The search comes past a stretch of candidates: `tried` is where their trials leave them, `lines`
tells of those that failed, and `clients` were opened and closed on the way. -/
structure Passes (w : World) (candidates : List Route) (j : Journal) (tried : List Route)
    (lines : List String) (clients : List Client) : Prop where
  kept : tried.map bare = candidates.map bare
  reports : List.Forall₂ (Turn.Reports w) ((turns w candidates j).filter (Turn.applies w)) lines
  books : (afterTurns w candidates j).books w = j.books w ++
    { marks := (turns w candidates j).flatMap (Turn.marks w), opened := clients, closed := clients }
  run : ∀ {σ : Type} (attempts : List String) (rest : List Route) (s : σ),
    chooseAfter attempts (candidates ++ rest) w s j =
      (do
        let (chosen, rest) ← chooseAfter (attempts ++ lines) rest
        return (chosen, tried ++ rest) : Action σ (Except Fault Route × List Route))
        w s (afterTurns w candidates j)

theorem Passes.nil (w : World) (j : Journal) : Passes w [] j [] [] [] := by
  refine ⟨rfl, .nil, (Books.append_nil _).symm, fun attempts rest s => ?_⟩
  simp only [List.nil_append, List.append_nil, run_bind, afterTurns]
  rcases chooseAfter attempts rest w s j with ⟨_ | ⟨chosen, rest⟩, s', j'⟩ <;> rfl

theorem Passes.cons {candidate : Route} {candidates tried tried' : List Route} {j : Journal}
    {lines lines' : List String} {clients clients' : List Client}
    (h : Passes w [candidate] j tried lines clients)
    (h' : Passes w candidates (tryOut w candidate j).2.2 tried' lines' clients') :
    Passes w (candidate :: candidates) j (tried ++ tried') (lines ++ lines')
      (clients ++ clients') := by
  have hturns : turns w (candidate :: candidates) j =
      turns w [candidate] j ++ turns w candidates (tryOut w candidate j).2.2 := rfl
  have hafter : afterTurns w (candidate :: candidates) j =
      afterTurns w candidates (tryOut w candidate j).2.2 := rfl
  refine ⟨?_, ?_, ?_, fun attempts rest s => ?_⟩
  · rw [List.map_append, h.kept, h'.kept]
    rfl
  · rw [hturns, List.filter_append]
    exact List.rel_append h.reports h'.reports
  · have hbooks := h'.books
    have hbooks₁ : (tryOut w candidate j).2.2.books w = _ := h.books
    rw [hbooks₁] at hbooks
    rw [hafter, hturns]
    refine hbooks.trans ?_
    simp [Books.append_def]
  · have hrun := h.run attempts (candidates ++ rest) s
    have hrun' : chooseAfter (attempts ++ lines) (candidates ++ rest) w s
      (afterTurns w [candidate] j) = _ := h'.run (attempts ++ lines) rest s
    rw [run_bind, hrun', run_bind, List.append_assoc] at hrun
    rw [hafter, run_bind]
    rw [List.singleton_append] at hrun
    refine hrun.trans ?_
    rcases chooseAfter (attempts ++ (lines ++ lines')) rest w s _ with
      ⟨_ | ⟨chosen, rest'⟩, s', j'⟩
    · rfl
    · simp only [run_pure, List.append_assoc]

/-! ### Candidates that do not work -/

theorem Passes.inapplicable {t : Turn} (h : t.applicable w = .ok false) :
    Passes w [t.candidate] t.journal [t.candidate] [] [] := by
  have happlies : t.applies w = false := by rw [Turn.applies, h]
  obtain ⟨j', htry, hbooks⟩ := Turn.tryOut_of_inapplicable h
  refine ⟨rfl, ?_, ?_, fun attempts rest s => ?_⟩
  · simp [turns, happlies]
  · simp [turns, afterTurns, htry, hbooks]
  · rw [List.append_nil, List.singleton_append, chooseAfter, run_bind, run_runOn, htry]
    simp only [afterTurns, htry]
    rfl

theorem Passes.unreached (hw : w.Calm) {t : Turn} (h : t.applicable w = .ok true)
    {fault : Fault} {r : Route} {j : Journal} (hr : t.reached w = (.error fault, r, j)) :
    ∃ clients, Passes w [t.candidate] t.journal [r]
      [attemptLine (t.description w) fault.problem] clients := by
  have happlies : t.applies w = true := by rw [Turn.applies, h]
  obtain ⟨opened, j', htry, hkept, hbooks⟩ := Turn.tryOut_of_unreached hw h hr
  refine ⟨opened.toList, by simp [hkept], ?_, ?_, fun attempts rest s => ?_⟩
  · have hreports : t.Reports w (attemptLine (t.description w) fault.problem) :=
      ⟨fault, by rw [hr], rfl⟩
    simpa [turns, happlies] using hreports
  · simp [turns, afterTurns, htry, hbooks]
  · rw [List.singleton_append, chooseAfter, run_bind, run_runOn, htry]
    simp only [afterTurns, htry]
    rfl

theorem Passes.declining (hw : w.Calm) {t : Turn} (h : t.Declines w) :
    ∃ tried lines clients, Passes w [t.candidate] t.journal tried lines clients := by
  obtain ⟨⟨_ | _, happlicable⟩, hworks⟩ := h
  · exact ⟨_, _, _, .inapplicable happlicable⟩
  · rcases hr : t.reached w with ⟨fault | found, r, j⟩
    · obtain ⟨clients, h⟩ := Passes.unreached hw happlicable hr
      exact ⟨_, _, clients, h⟩
    · exact absurd ⟨happlicable, found, by rw [hr]⟩ hworks

/-- The search comes past all candidates that decline in their turns. -/
theorem passes_of_declining (hw : w.Calm) (candidates : List Route) (j : Journal)
    (h : ∀ t ∈ turns w candidates j, t.Declines w) :
    ∃ tried lines clients, Passes w candidates j tried lines clients := by
  -- the journal varies: each turn is taken where the one before it has ended
  induction candidates generalizing j with
  | nil => exact ⟨_, _, _, .nil w j⟩
  | cons candidate candidates ih =>
    have hfirst : Turn.Declines w ⟨candidate, j⟩ := h _ List.mem_cons_self
    obtain ⟨tried, lines, clients, hpass⟩ := Passes.declining hw hfirst
    obtain ⟨tried', lines', clients', hpass'⟩ :=
      ih _ (fun t ht => h t (List.mem_cons_of_mem _ ht))
    exact ⟨_, _, _, .cons hpass hpass'⟩

theorem unprobed_of_kept {tried candidates : List Route}
    (hkept : tried.map bare = candidates.map bare)
    (h : ∀ r ∈ candidates, r.isProbed = false) : ∀ r ∈ tried, r.isProbed = false := by
  intro r hr
  have hmem : r.bare ∈ candidates.map bare := hkept ▸ List.mem_map_of_mem hr
  obtain ⟨r', hr', hbare⟩ := List.mem_map.mp hmem
  obtain ⟨-, -, hheld, -⟩ := bare_eq_iff.mp hbare
  rw [isProbed, ← hheld]
  exact h r' hr'

/-! ### A candidate that works -/

/-- The search ends with the turn of a candidate that works. -/
theorem chooseAfter_of_works {t : Turn} (h : t.Works w) :
    ∃ (k : Client) (host : Option String) (winner : Route) (j' : Journal),
      (t.reached w).1 = .ok (k, host) ∧
      winner.bare = { t.candidate with held := some k, host, machine := none } ∧
      j'.books w = t.journal.books w ++
        { marks := t.marks w ++ [.limited k t.candidate.settings.timeout], opened := [k] } ∧
      ∀ {σ : Type} (attempts : List String) (rest : List Route) (s : σ),
        chooseAfter attempts (t.candidate :: rest) w s t.journal =
          (.ok (.ok winner, winner :: rest), s, j') := by
  obtain ⟨happlicable, ⟨k, host⟩, hfound⟩ := h
  rcases hr : t.reached w with ⟨result, r, j⟩
  rw [hr] at hfound
  obtain rfl : result = .ok (k, host) := hfound
  obtain ⟨j', htry, hkept, hbooks⟩ := Turn.tryOut_of_reached happlicable hr
  obtain ⟨hway, hsettings, -, -⟩ := bare_eq_iff.mp hkept
  refine ⟨k, host, { r with held := some k, host }, j', rfl, ?_, hbooks, ?_⟩
  · rw [bare, hway, hsettings]
  · intro σ attempts rest s
    rw [chooseAfter, run_bind, run_runOn, htry]
    rfl

/-- The first candidate that works is chosen, as if no others came after it; the earlier ones are
left unprobed, no client but the chosen one stays open, and only its request timeout is set. Where
no candidate works, the failure has one line for each that applies, in order. -/
theorem choose_first_working (hw : w.Calm) (candidates : List Route)
    (fresh : ∀ r ∈ candidates, r.isProbed = false) (s : σ) (j : Journal) :
    (∀ earlier candidate later, candidates = earlier ++ candidate :: later →
      (∀ t ∈ turns w earlier j, t.Declines w) →
      Turn.Works w ⟨candidate, afterTurns w earlier j⟩ →
      ∃ (k : Client) (host : Option String) (winner : Route) (tried : List Route)
        (clients : List Client) (j' : Journal),
        (∀ rest, choose (earlier ++ candidate :: rest) w s j =
          (.ok (.ok winner, tried ++ winner :: rest), s, j')) ∧
        (Turn.reached w ⟨candidate, afterTurns w earlier j⟩).1 = .ok (k, host) ∧
        winner.bare = { candidate with held := some k, host, machine := none } ∧
        tried.map bare = earlier.map bare ∧ (∀ r ∈ tried, r.isProbed = false) ∧
        j'.books w = j.books w ++
          { marks := (turns w earlier j).flatMap (Turn.marks w) ++
              (Turn.marks w ⟨candidate, afterTurns w earlier j⟩ ++
                [.limited k candidate.settings.timeout])
            opened := clients ++ [k], closed := clients }) ∧
    ((∀ t ∈ turns w candidates j, t.Declines w) →
      ∃ (lines : List String) (tried : List Route) (clients : List Client) (j' : Journal),
        choose candidates w s j =
          (.ok (.error (.ofFailure (.noViableConnection lines)), tried), s, j') ∧
        List.Forall₂ (Turn.Reports w) ((turns w candidates j).filter (Turn.applies w)) lines ∧
        tried.map bare = candidates.map bare ∧ (∀ r ∈ tried, r.isProbed = false) ∧
        j'.books w = j.books w ++
          { marks := (turns w candidates j).flatMap (Turn.marks w)
            opened := clients, closed := clients }) := by
  constructor
  · intro earlier candidate later hsplit hdecline hworks
    subst hsplit
    obtain ⟨tried, lines, clients, hpass⟩ := passes_of_declining hw earlier j hdecline
    obtain ⟨k, host, winner, j', hreached, hwinner, hbooks, hrun⟩ := chooseAfter_of_works hworks
    refine ⟨k, host, winner, tried, clients, j', fun rest => ?_, hreached, hwinner, hpass.kept,
      ?_, ?_⟩
    · rw [choose, hpass.run, run_bind_ok (hrun ([] ++ lines) rest s)]
      rfl
    · have hearlier : ∀ r ∈ earlier, r.isProbed = false :=
        fun r hr => fresh r (List.mem_append_left _ hr)
      exact unprobed_of_kept hpass.kept hearlier
    · rw [hbooks, hpass.books]
      simp [Books.append_def]
  · intro hdecline
    obtain ⟨tried, lines, clients, hpass⟩ := passes_of_declining hw candidates j hdecline
    have hrun := hpass.run [] [] s
    rw [List.append_nil] at hrun
    refine ⟨lines, tried, clients, (afterTurns w candidates j).add
      (.logged .error "Could not find a valid Docker environment" [("failures", .ofTexts lines)]),
      ?_, hpass.reports, hpass.kept, unprobed_of_kept hpass.kept fresh, ?_⟩
    · rw [choose, hrun, run_bind, chooseAfter, List.nil_append]
      simp only [run_bind, run_log, run_pure, List.append_nil]
    · rw [Journal.books_of_aside (.add (Event.isAside_logged (by decide) (by decide)) _) w,
        hpass.books]

/-- A world in which one client does not answer, nor can it be closed. -/
def lameWorld : World := World.plain (fun c => match c with
  | .client "lame" .ping => some (.os .timeout none "timed out" none)
  | .client "lame" .close => some (.runtime "already closed")
  | _ => none)

theorem calm_lameWorld : lameWorld.Calm := by
  refine World.calm_plain (fun c problem h => ?_)
  split at h <;> cases h <;> rfl

def supplied (name : String) : Route where
  way := .supplied name name .unixSocket
  settings := .plain

def pipe : Route := { way := .known .namedPipe, settings := .plain }

/-- The pipe does not apply, the lame client is given up, and the spare one is never asked for. -/
theorem choose_sound : ∃ winner tried clients j',
    choose [pipe, supplied "lame", supplied "sound", supplied "spare"] lameWorld () {} =
      (.ok (.ok winner, tried ++ [winner, supplied "spare"]), (), j') ∧
    winner.bare = { supplied "sound" with held := some "sound", host := some "localhost" } ∧
    j'.opened lameWorld = clients ++ ["sound"] ∧ j'.closed = clients := by
  have hdecline : ∀ t ∈ turns lameWorld [pipe, supplied "lame"] {}, t.Declines lameWorld := by
    intro t ht
    have ht : t ∈ [_, _] := ht
    rw [List.mem_cons, List.mem_singleton] at ht
    rcases ht with rfl | rfl
    · refine ⟨⟨false, rfl⟩, fun ⟨h, _⟩ => ?_⟩
      have h : (Except.ok false : Except Fault Bool) = .ok true := h
      cases h
    · refine ⟨⟨true, rfl⟩, fun ⟨_, found, h⟩ => ?_⟩
      have h : (Except.error _ : Except Fault _) = .ok found := h
      cases h
  obtain ⟨k, host, winner, tried, clients, j', hrun, hreached, hwinner, -, -, hbooks⟩ :=
    (choose_first_working calm_lameWorld
      [pipe, supplied "lame", supplied "sound", supplied "spare"] (by decide) () {}).1
      [pipe, supplied "lame"] (supplied "sound") [supplied "spare"] rfl hdecline
      ⟨rfl, _, rfl⟩
  have hfound : (Except.ok ("sound", some "localhost") : Except Fault _) = .ok (k, host) :=
    hreached
  cases hfound
  exact ⟨winner, tried, clients, j', hrun [supplied "spare"], hwinner,
    congrArg Books.opened hbooks, congrArg Books.closed hbooks⟩

end Mooring.Route
