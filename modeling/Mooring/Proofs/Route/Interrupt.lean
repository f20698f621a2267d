import Mooring.Proofs.Route.Turn

/-! Searches that an interrupt may cut off. A probe closes the client that it has opened when
something fails, but not when it is interrupted: an interrupt between the opening of a client and
its closing leaves the client open, and at any other time none. -/

namespace Mooring

open Mooring.Action

variable {w : World} {j j' j'' : Journal} {left : Option Client}

/-! ### What is left open -/

/-- From one journal to another every client that is opened is closed in its turn, but for the one
that is left. -/
def Journal.Leaves (w : World) (j : Journal) (left : Option Client) (j' : Journal) : Prop :=
  ∃ books, j'.books w = j.books w ++ books ∧ books.opened = books.closed ++ left.toList

namespace Journal

theorem Leaves.of_aside (h : j.Aside j') : j.Leaves w none j' := by
  refine ⟨{}, ?_, rfl⟩
  rw [books_of_aside h w, Books.append_nil]

theorem Leaves.trans (h : j.Leaves w none j') (h' : j'.Leaves w left j'') :
    j.Leaves w left j'' := by
  obtain ⟨books, hbooks, hopened⟩ := h
  obtain ⟨books', hbooks', hopened'⟩ := h'
  refine ⟨books ++ books', by rw [hbooks', hbooks, Books.append_assoc], ?_⟩
  simp [Books.append_def, hopened, hopened', List.append_assoc]

/-- What comes after it without opening or closing a client keeps what is left. -/
theorem Leaves.followed {books : Books} (h : j.Leaves w left j')
    (hbooks : j''.books w = j'.books w ++ books) (hopened : books.opened = [])
    (hclosed : books.closed = []) : j.Leaves w left j'' := by
  obtain ⟨before, hbefore, hleft⟩ := h
  refine ⟨before ++ books, by rw [hbooks, hbefore, Books.append_assoc], ?_⟩
  simp only [Books.append_def, hopened, hclosed, hleft, List.append_nil]

theorem Leaves.followed_aside (h : j.Leaves w left j') (haside : j'.Aside j'') :
    j.Leaves w left j'' := by
  have hbooks : j''.books w = j'.books w ++ {} := by
    rw [books_of_aside haside w, Books.append_nil]
  exact h.followed hbooks rfl rfl

/-- The client that is left is closed. -/
theorem Leaves.closing {k : Client} (h : j.Leaves w (some k) j')
    (haside : (j'.afterCall w (.client k .close)).Aside j'') : j.Leaves w none j'' := by
  obtain ⟨books, hbooks, hopened⟩ := h
  refine ⟨books ++ { closed := [k] }, ?_, ?_⟩
  · rw [books_of_aside haside w, books_afterCall, Event.entry_closed, hbooks, Books.append_assoc]
  · simp [Books.append_def, hopened]

end Journal

/-- What is left open when something ends in a fault: nothing after a failure, and after an
interrupt what it has cut off. -/
inductive Fault.Abandons (cut : Fault → Option Client → Prop) (fault : Fault) :
    Option Client → Prop
  | failure (h : fault.problem.isException = true) : Abandons cut fault none
  | interrupt {left : Option Client} (h : fault.problem.isException = false)
    (hcut : cut fault left) : Abandons cut fault left

theorem Fault.Abandons.mono {fault : Fault} {cut cut' : Fault → Option Client → Prop}
    (h : fault.Abandons cut left) (hcut : cut fault left → cut' fault left) :
    fault.Abandons cut' left := by
  cases h with
  | failure hf => exact .failure hf
  | interrupt hf h => exact .interrupt hf (hcut h)

namespace Route

variable {r : Route} {fault : Fault}

/-! ### Probes -/

/-- Where a fault cuts a probe off, and the client that it leaves open there: the one that is being
greeted. -/
inductive CutOff (w : World) (r : Route) (j : Journal) (fault : Fault) : Option Client → Prop
  | opening {r' : Route} {j' : Journal} (h : openClient w r j = (.error fault, r', j')) :
    CutOff w r j fault none
  | greeting {k : Client} {r₁ r' : Route} {j₁ j' : Journal}
    (hopen : openClient w r j = (.ok k, r₁, j₁))
    (h : greet k w r₁ j₁ = (.error fault, r', j')) : CutOff w r j fault (some k)
  | closing {k : Client} {failed : Fault} {r₁ r₂ : Route} {j₁ j₂ j' : Journal}
    (hopen : openClient w r j = (.ok k, r₁, j₁))
    (hgreet : greet k w r₁ j₁ = (.error failed, r₂, j₂))
    (hfailed : failed.problem.isException = true)
    (h : closeQuietly k w r₂ j₂ = (.error fault, r₂, j')) : CutOff w r j fault none

theorem leaves_of_opened {k : Client} {r₁ : Route} {j₁ : Journal}
    (h : openClient w r j = (.ok k, r₁, j₁)) : j.Leaves w (some k) j₁ := by
  have hopening := endsOpening_openClient w r j
  rw [h] at hopening
  exact ⟨_, hopening.books, rfl⟩

theorem leaves_of_unopened {r₁ : Route} {j₁ : Journal}
    (h : openClient w r j = (.error fault, r₁, j₁)) : j.Leaves w none j₁ := by
  have hopening := endsOpening_openClient w r j
  rw [h] at hopening
  exact ⟨_, hopening.books, rfl⟩

/-- The run of a probe from the end of the greeting on. -/
theorem probe_of_failed {k : Client} {r₁ r₂ : Route} {j₁ j₂ : Journal}
    (hopen : openClient w r j = (.ok k, r₁, j₁))
    (hgreet : greet k w r₁ j₁ = (.error fault, r₂, j₂)) :
    probe w r j = (do
      if fault.problem.isException then closeQuietly k
      fail fault : Action Route Client) w r₂ j₂ := by
  rw [probe, run_bind_ok hopen, run_bind_ok (run_attempt _), hgreet]

/-- An interrupt ends the probe wherever it strikes. -/
theorem probe_of_cutOff (hf : fault.problem.isException = false) (h : CutOff w r j fault left) :
    ∃ r' j', probe w r j = (.error fault, r', j') ∧ j.Leaves w left j' := by
  cases h with
  | opening h => exact ⟨_, _, run_bind_error h, leaves_of_unopened h⟩
  | @greeting k _ r' _ j' hopen h =>
    refine ⟨r', j', ?_, (leaves_of_opened hopen).followed_aside ((standsAside_greet k).aside h)⟩
    rw [probe_of_failed hopen h]
    simp only [hf, Bool.false_eq_true, if_false, run_fail]
  | @closing k _ _ r₂ _ j₂ j' hopen hgreet hfailed h =>
    have hgreeted := (leaves_of_opened hopen).followed_aside ((standsAside_greet k).aside hgreet)
    obtain ⟨result, j₃, hclose, haside, -⟩ := closeQuietly_cases w k r₂ j₂
    rw [h] at hclose
    cases hclose
    refine ⟨r₂, j', ?_, hgreeted.closing haside⟩
    rw [probe_of_failed hopen hgreet]
    simp only [hfailed, if_true]
    exact run_bind_error h

/-- A probe that gets through leaves the client that its route then holds. Any other leaves none,
unless an interrupt has cut it off. -/
theorem probe_cases (w : World) (r : Route) (j : Journal) :
    (∃ k r' j', probe w r j = (.ok k, r', j') ∧ r'.held = some k ∧ j.Leaves w (some k) j') ∨
      ∃ fault left r' j', probe w r j = (.error fault, r', j') ∧ j.Leaves w left j' ∧
        fault.Abandons (CutOff w r j) left := by
  have interrupted {fault : Fault} {left : Option Client}
      (hf : fault.problem.isException = false) (h : CutOff w r j fault left) :
      ∃ fault left r' j', probe w r j = (.error fault, r', j') ∧ j.Leaves w left j' ∧
        fault.Abandons (CutOff w r j) left := by
    obtain ⟨r', j', hprobe, hleaves⟩ := probe_of_cutOff hf h
    exact ⟨fault, left, r', j', hprobe, hleaves, .interrupt hf h⟩
  rcases hopen : openClient w r j with ⟨fault | k, r₁, j₁⟩
  · cases hf : fault.problem.isException with
    | true =>
      exact .inr ⟨fault, none, r₁, j₁, run_bind_error hopen, leaves_of_unopened hopen,
        .failure hf⟩
    | false => exact .inr (interrupted hf (.opening hopen))
  · have hopened := leaves_of_opened hopen
    rcases hgreet : greet k w r₁ j₁ with ⟨fault | host, r₂, j₂⟩
    · have hgreeted := hopened.followed_aside ((standsAside_greet k).aside hgreet)
      cases hf : fault.problem.isException with
      | false => exact .inr (interrupted hf (.greeting hopen hgreet))
      | true =>
        obtain ⟨result, j₃, hclose, haside, hfault⟩ := closeQuietly_cases w k r₂ j₂
        cases result with
        | error fault' =>
          obtain ⟨hf', -⟩ := hfault fault' rfl
          exact .inr (interrupted hf' (.closing hopen hgreet hf hclose))
        | ok u =>
          refine .inr ⟨fault, none, r₂, j₃, ?_, hgreeted.closing haside, .failure hf⟩
          rw [probe_of_failed hopen hgreet]
          simp only [hf, if_true]
          rw [run_bind_ok hclose, run_fail]
    · have hreach : reach w r j = (.ok (k, host), r₂, j₂) := by
        rw [reach, run_bind_ok hopen, run_bind_ok hgreet]
        rfl
      refine .inl ⟨k, _, _, probe_of_reached hreach, rfl, ?_⟩
      have hgreeted := hopened.followed_aside ((standsAside_greet k).aside hgreet)
      have hlimited := Journal.books_add w j₂
        (.called (.client k (.setTimeout r₂.settings.timeout)))
      rw [Event.entry_limited] at hlimited
      exact hgreeted.followed hlimited rfl rfl

/-! ### Turns -/

namespace Turn

variable {t : Turn}

/-- Where a fault cuts a turn off, and the client that it leaves open there. -/
inductive CutOff (w : World) (t : Turn) (fault : Fault) : Option Client → Prop
  | asking (h : t.applicable w = .error fault) : CutOff w t fault none
  | probing {left : Option Client} (happlicable : t.applicable w = .ok true)
    (h : Route.CutOff w t.candidate (t.probing w) fault left) : CutOff w t fault left

theorem leaves_of_probing (w : World) (t : Turn) : t.journal.Leaves w none (t.probing w) :=
  ⟨_, books_of_probing w t, rfl⟩

theorem tryOut_of_cutOff (hf : fault.problem.isException = false) (h : t.CutOff w fault left) :
    ∃ r j', tryOut w t.candidate t.journal = (.error fault, r, j') ∧
      t.journal.Leaves w left j' := by
  cases h with
  | asking h =>
    obtain ⟨j', htry, -, hbooks⟩ := tryOut_of_unknown h
    exact ⟨_, j', htry, _, hbooks, rfl⟩
  | probing happlicable h =>
    obtain ⟨r, j', hprobe, hleaves⟩ := probe_of_cutOff hf h
    refine ⟨r, j', ?_, (leaves_of_probing w t).trans hleaves⟩
    rw [tryOut_of_applicable happlicable, run_bind_ok (run_attempt _), hprobe]
    simp only [hf, Bool.not_false, if_true]
    rfl

/-- A turn that works leaves the client that its candidate then holds. Any other leaves none, unless
an interrupt has cut it off. -/
theorem tryOut_cases (w : World) (t : Turn) :
    (∃ r j' k, tryOut w t.candidate t.journal = (.ok .works, r, j') ∧ r.held = some k ∧
        t.journal.Leaves w (some k) j') ∨
      (∃ trial r j', tryOut w t.candidate t.journal = (.ok trial, r, j') ∧ trial ≠ .works ∧
        t.journal.Leaves w none j') ∨
      ∃ fault left r j', tryOut w t.candidate t.journal = (.error fault, r, j') ∧
        t.journal.Leaves w left j' ∧ fault.Abandons (t.CutOff w) left := by
  cases happlicable : t.applicable w with
  | error fault =>
    obtain ⟨j', htry, -, hbooks⟩ := tryOut_of_unknown happlicable
    refine .inr (.inr ⟨fault, none, _, j', htry, ⟨_, hbooks, rfl⟩, ?_⟩)
    cases hf : fault.problem.isException with
    | true => exact .failure hf
    | false => exact .interrupt hf (.asking happlicable)
  | ok applies =>
    cases applies with
    | false =>
      obtain ⟨j', htry, hbooks⟩ := tryOut_of_inapplicable happlicable
      exact .inr (.inl ⟨.skipped, _, j', htry, nofun, _, hbooks, rfl⟩)
    | true =>
      have hprobing := leaves_of_probing w t
      have hrun := tryOut_of_applicable happlicable
      rw [run_bind_ok (run_attempt _)] at hrun
      rcases probe_cases w t.candidate (t.probing w) with ⟨k, r, j', hprobe, hheld, hleaves⟩ |
        ⟨fault, left, r, j', hprobe, hleaves, hfault⟩
      · rw [hprobe] at hrun
        refine .inl ⟨r, _, k, hrun, hheld, (hprobing.trans hleaves).followed_aside ?_⟩
        exact .add (Event.isAside_logged (by decide) (by decide)) _
      · cases hfault with
        | failure hf =>
          rw [hprobe] at hrun
          simp only [hf, Bool.not_true, Bool.false_eq_true, if_false] at hrun
          refine .inr (.inl ⟨.failed _, r, _, hrun, nofun, ?_⟩)
          refine (hprobing.trans hleaves).followed_aside ?_
          exact .add (Event.isAside_logged (by decide) (by decide)) _
        | interrupt hf hcut =>
          have hcut : t.CutOff w fault left := .probing happlicable hcut
          obtain ⟨r, j', htry, hleaves⟩ := tryOut_of_cutOff hf hcut
          exact .inr (.inr ⟨fault, left, r, j', htry, hleaves, .interrupt hf hcut⟩)

end Turn

/-! ### Searches -/

/-- Where a fault cuts a search off, and the client that it leaves open there: in the turn of a
candidate that others have come before in vain. -/
inductive SearchCutOff (w : World) (fault : Fault) :
    List Route → Journal → Option Client → Prop
  | here {candidate : Route} {candidates : List Route} {j : Journal} {left : Option Client}
    (h : Turn.CutOff w ⟨candidate, j⟩ fault left) :
    SearchCutOff w fault (candidate :: candidates) j left
  | later {candidate r : Route} {candidates : List Route} {j j' : Journal} {trial : Trial}
    {left : Option Client} (htry : tryOut w candidate j = (.ok trial, r, j'))
    (hpassed : trial ≠ .works) (h : SearchCutOff w fault candidates j' left) :
    SearchCutOff w fault (candidate :: candidates) j left

variable {σ : Type} {candidate : Route} {candidates : List Route}

theorem chooseAfter_of_ended (htry : tryOut w candidate j = (.error fault, r, j'))
    (attempts : List String) (candidates : List Route) (s : σ) :
    chooseAfter attempts (candidate :: candidates) w s j =
      (.ok (.error fault, r :: candidates), s, j') := by
  rw [chooseAfter, run_bind, run_runOn, htry]
  rfl

theorem chooseAfter_of_found (htry : tryOut w candidate j = (.ok .works, r, j'))
    (attempts : List String) (candidates : List Route) (s : σ) :
    chooseAfter attempts (candidate :: candidates) w s j =
      (.ok (.ok r, r :: candidates), s, j') := by
  rw [chooseAfter, run_bind, run_runOn, htry]
  rfl

/-- The search goes on after a candidate that was tried in vain. -/
theorem chooseAfter_of_passed {trial : Trial} (htry : tryOut w candidate j = (.ok trial, r, j'))
    (hpassed : trial ≠ .works) (attempts : List String) :
    ∃ attempts', ∀ (candidates tried : List Route) (s : σ) (chosen : Except Fault Route)
      (j'' : Journal), chooseAfter attempts' candidates w s j' = (.ok (chosen, tried), s, j'') →
        chooseAfter attempts (candidate :: candidates) w s j =
          (.ok (chosen, r :: tried), s, j'') := by
  cases trial with
  | works => exact absurd rfl hpassed
  | skipped =>
    refine ⟨attempts, fun candidates tried s chosen j'' h => ?_⟩
    rw [chooseAfter, run_bind, run_runOn, htry]
    exact run_bind_ok h
  | failed line =>
    refine ⟨attempts ++ [line], fun candidates tried s chosen j'' h => ?_⟩
    rw [chooseAfter, run_bind, run_runOn, htry]
    exact run_bind_ok h

theorem Turn.leaves_of_passed {trial : Trial} (htry : tryOut w candidate j = (.ok trial, r, j'))
    (hpassed : trial ≠ .works) : j.Leaves w none j' := by
  rcases Turn.tryOut_cases w ⟨candidate, j⟩ with ⟨_, _, _, h, -⟩ | ⟨_, _, _, h, -, hleaves⟩ |
    ⟨_, _, _, _, h, -⟩
  · cases htry.symm.trans h
    exact absurd rfl hpassed
  · cases htry.symm.trans h
    exact hleaves
  · cases htry.symm.trans h

theorem chooseAfter_of_cutOff (hf : fault.problem.isException = false)
    (h : SearchCutOff w fault candidates j left) (attempts : List String) (s : σ) :
    ∃ tried j', chooseAfter attempts candidates w s j = (.ok (.error fault, tried), s, j') ∧
      j.Leaves w left j' := by
  induction h generalizing attempts with
  | here h =>
    obtain ⟨r, j', htry, hleaves⟩ := Turn.tryOut_of_cutOff hf h
    exact ⟨_, j', chooseAfter_of_ended htry attempts _ s, hleaves⟩
  | later htry hpassed _ ih =>
    obtain ⟨attempts', hrun⟩ := chooseAfter_of_passed htry hpassed attempts
    obtain ⟨tried, j', hchoose, hleaves⟩ := ih attempts'
    exact ⟨_, j', hrun _ _ _ _ _ hchoose, (Turn.leaves_of_passed htry hpassed).trans hleaves⟩

/-- A search that finds a route leaves the client that the route holds. Any other leaves none,
unless an interrupt has cut it off. -/
theorem chooseAfter_leaves (w : World) (candidates : List Route) (attempts : List String) (s : σ)
    (j : Journal) :
    ∃ chosen tried left j', chooseAfter attempts candidates w s j = (.ok (chosen, tried), s, j') ∧
      j.Leaves w left j' ∧
      ((∃ route k, chosen = .ok route ∧ route.held = some k ∧ left = some k) ∨
        ∃ fault, chosen = .error fault ∧
          fault.Abandons (fun fault left => SearchCutOff w fault candidates j left) left) := by
  induction candidates generalizing attempts j with
  | nil =>
    refine ⟨_, _, none, _, rfl, .of_aside ?_, .inr ⟨_, rfl, .failure rfl⟩⟩
    exact .add (Event.isAside_logged (by decide) (by decide)) j
  | cons candidate candidates ih =>
    rcases Turn.tryOut_cases w ⟨candidate, j⟩ with ⟨r, j', k, htry, hheld, hleaves⟩ |
      ⟨trial, r, j', htry, hpassed, hleaves⟩ | ⟨fault, left, r, j', htry, hleaves, hfault⟩
    · exact ⟨_, _, some k, j', chooseAfter_of_found htry attempts candidates s, hleaves,
        .inl ⟨r, k, rfl, hheld, rfl⟩⟩
    · obtain ⟨attempts', hrun⟩ := chooseAfter_of_passed htry hpassed attempts
      obtain ⟨chosen, tried, left, j'', hchoose, hrest, hends⟩ := ih attempts' j'
      refine ⟨chosen, _, left, j'', hrun _ _ _ _ _ hchoose, hleaves.trans hrest, ?_⟩
      rcases hends with hfound | ⟨fault, hchosen, hfault⟩
      · exact .inl hfound
      · exact .inr ⟨fault, hchosen, hfault.mono (.later htry hpassed)⟩
    · exact ⟨_, _, left, j', chooseAfter_of_ended htry attempts candidates s, hleaves,
        .inr ⟨fault, rfl, hfault.mono .here⟩⟩

end Route

end Mooring
