import Mooring.Proofs.Connection.Use

/-! The stages of a connection. It is made at most once, by the first use that needs it, and what
that comes to is final: a connection that stands is answered until it is closed, and one that has
failed ends everything that needs it in the same fault, at once. -/

namespace Mooring.Connection

open Mooring.Action

variable {α : Type} {w : World} {closes : Bool} {c c' : Connection} {j j' : Journal}

/-! ### Before and after the attempt -/

/-- Where nothing is held, nothing is closed. -/
theorem Keeps.aside (h : Keeps w closes c j c' j') (hheld : c.holding = []) : j.Aside j' := by
  obtain ⟨clients, hbooks, hperm, -⟩ := h.closed
  rw [hheld, List.nil_perm, List.append_eq_nil_iff] at hperm
  rw [hperm.2] at hbooks
  refine h.apart.aside ?_
  have hclosed : j'.closed = j.closed ++ [] := congrArg Books.closed hbooks
  rw [hclosed, List.append_nil]

/-- Everything that needs the connection ends in one fault, with no call and no line written. -/
structure Refuses (w : World) (fault : Fault) (c : Connection) (j : Journal) : Prop where
  client : client w c j = (.error fault, c, j)
  daemon : daemon w c j = (.error fault, c, j)
  apiVersion : apiVersion w c j = (.error fault, c, j)
  executionDriver : executionDriver w c j = (.error fault, c, j)
  startedAgent : startedAgent w c j = (.error fault, c, j)
  runInside : ∀ {α : Type} (adjust : Action HelperSpec Unit)
    (work : Client → ResourceId → Action Connection α),
      runInside adjust work w c j = (.error fault, c, j)

/-- All of it begins by asking for the client. -/
theorem refuses_of_client {fault : Fault} (h : Connection.client w c j = (.error fault, c, j)) :
    Refuses w fault c j := by
  have hdaemon : Connection.daemon w c j = (.error fault, c, j) := run_bind_error h
  exact ⟨h, hdaemon, run_bind_error hdaemon, run_bind_error hdaemon, run_bind_error h,
    fun _ _ => run_bind_error h⟩

theorem refuses_of_failed (hc : c.Stands .failed) {fault : Fault}
    (hfailure : c.failure = some fault) (w : World) (j : Journal) : Refuses w fault c j :=
  refuses_of_client (run_bind_error (ensureResolved_of_failed hc hfailure))

/-- From an unresolved connection there is at most one attempt, with nothing but steps aside before
it and no step of the making of a connection after it. -/
theorem Passage.once (hw : w.Calm) (hc : c.Stands .unresolved)
    (h : Passage w closes c j c' j') :
    c' = c ∧ j.Aside j' ∨
      ∃ j₁ ended c₁ j₂, j.Aside j₁ ∧ resolve w c j₁ = (ended, c₁, j₂) ∧ j₂.Apart j' ∧
        (c'.Stands .resolved ∧ ended = .ok () ∨
          ∃ fault, c'.Stands .failed ∧ c'.failure = some fault ∧ ended = .error fault) := by
  obtain ⟨-, -, -, hchosen, -, hagent⟩ := id hc
  have hheld : c.holding = [] := holding_of_unchosen hchosen
  cases h with
  | keeps h => exact .inl ⟨h.eq hchosen hagent, h.aside hheld⟩
  | settles unresolved before attempt after =>
    refine .inr ⟨_, _, _, _, before.aside hheld, attempt, after.apart, ?_⟩
    rcases stands_of_resolve hw unresolved attempt with ⟨hc₁, h⟩ | ⟨fault, hc₁, hfailure, h⟩
    · exact .inl ⟨after.stands hc₁, h⟩
    · exact .inr ⟨fault, after.stands hc₁, after.failure_eq.trans hfailure, h⟩

/-- No list of candidates is gone through twice, and no daemon is asked twice about itself. -/
theorem Passage.books (hw : w.Calm) (h : Passage w closes c j c' j') :
    ∃ books, j'.books w = j.books w ++ books ∧ books.infos ≤ 1 ∧ books.versions ≤ 1 ∧
      books.marks.filter Mark.isAsked <+: c.routes.flatMap Route.asking := by
  cases h with
  | keeps h =>
    obtain ⟨clients, hbooks, -⟩ := h.closed
    exact ⟨_, hbooks, by simp, by simp, List.nil_prefix⟩
  | @settles j₁ j₂ ended c₁ unresolved before attempt after =>
    obtain ⟨clients, hbefore, -⟩ := before.closed
    obtain ⟨clients', hafter, -⟩ := after.closed
    obtain ⟨⟨books, hbooks, hattempted⟩, -⟩ := settled_of_resolve hw unresolved attempt
    refine ⟨{ closed := clients } ++ (books ++ { closed := clients' }), ?_, ?_, ?_, ?_⟩
    · rw [hafter, hbooks, hbefore, Books.append_assoc, Books.append_assoc]
    · simpa [Books.append_def] using hattempted.infos
    · simpa [Books.append_def] using hattempted.versions
    · simpa [Books.append_def] using hattempted.asked

theorem Passage.keeps_of_settled (h : Passage w closes c j c' j') {stage : Stage}
    (hc : c.Stands stage) (hstage : stage ≠ .unresolved) : Keeps w closes c j c' j' := by
  cases h with
  | keeps h => exact h
  | settles unresolved => exact absurd (hc.unique unresolved).symm hstage

/-- A connection that has just been made answers its client, until something is closed. -/
theorem Passage.client_of_resolved (hw : w.Calm) (hc : c.Stands .unresolved)
    (h : Passage w false c j c' j') (hc' : c'.Stands .resolved) :
    ∃ r k, c'.chosen = some r ∧ r.held = some k := by
  cases h with
  | keeps h => exact absurd ((h.stands hc).unique hc') nofun
  | settles unresolved before attempt after =>
    obtain ⟨-, ⟨-, -, r, k, hchosen, hheld⟩ | ⟨fault, hc₁, -, -⟩⟩ :=
      settled_of_resolve hw unresolved attempt
    · exact ⟨r, k, after.chosen_eq.trans hchosen, hheld⟩
    · exact absurd ((after.stands hc₁).unique hc') nofun

/-! ### The course from the beginning -/

/-- From its beginning, a connection stands at one of three stages after every use. All uses
together make at most one attempt, and ask each candidate and the daemon at most once. A connection
that stands or has failed does so for ever, with what the attempt has left; one that stands answers
the same client until it is closed, and one that has failed refuses with the first fault. -/
theorem stages_of_use (hw : w.Calm) (settings : Settings) (candidates : Option (List Route))
    {act : Action Connection α} (h : Use w closes act) {result : Except Fault α}
    (hrun : act w { settings, candidates } j = (result, c, j')) :
    (∃! stage, c.Stands stage) ∧
    (c = { settings, candidates } ∧ j.Aside j' ∨
      ∃ j₁ ended c₁ j₂, j.Aside j₁ ∧ resolve w { settings, candidates } j₁ = (ended, c₁, j₂) ∧
        j₂.Apart j' ∧
        (c.Stands .resolved ∧ ended = .ok () ∨
          ∃ fault, c.Stands .failed ∧ c.failure = some fault ∧ ended = .error fault)) ∧
    (∃ books, j'.books w = j.books w ++ books ∧ books.infos ≤ 1 ∧ books.versions ≤ 1 ∧
      books.marks.filter Mark.isAsked <+:
        (candidates.getD (Route.discover settings)).flatMap Route.asking) ∧
    (∀ {closes' : Bool} {β : Type} {act' : Action Connection β} {result' : Except Fault β}
        {c' : Connection} {j'' : Journal},
      Use w closes' act' → act' w c j' = (result', c', j'') →
        (c.Stands .resolved → c'.Stands .resolved ∧ c'.metadata = c.metadata ∧
          c'.chosen.map Route.released = c.chosen.map Route.released ∧ j'.Apart j'') ∧
        (c.Stands .failed → c' = c ∧ j'.Aside j'')) ∧
    (∀ fault, c.Stands .failed → c.failure = some fault → ∀ j'', Refuses w fault c j'') ∧
    (closes = false → c.Stands .resolved → ∃ k, client w c j' = (.ok k, c, j') ∧
      ∀ {β : Type} {act' : Action Connection β} {result' : Except Fault β} {c' : Connection}
        {j'' : Journal}, Use w false act' → act' w c j' = (result', c', j'') →
          client w c' j'' = (.ok k, c', j'')) := by
  have hfresh := stands_unresolved settings candidates
  have hcourse := h.lawful hw _ _ j hfresh
  rw [hrun] at hcourse
  have hpassage : Passage w closes { settings, candidates } j c j' := hcourse.passage
  obtain ⟨stage, hc⟩ := hpassage.stands hw hfresh
  refine ⟨⟨stage, hc, fun _ hc' => hc.unique hc'⟩, hpassage.once hw hfresh, hpassage.books hw,
    ?_, ?_, ?_⟩
  · intro closes' β act' result' c' j'' h' hrun'
    have hcourse' := h'.lawful hw _ _ j' hc
    rw [hrun'] at hcourse'
    refine ⟨fun hresolved => ?_, fun hfailed => ?_⟩
    · have hkeeps : Keeps w closes' c j' c' j'' :=
        hcourse'.passage.keeps_of_settled hresolved nofun
      exact ⟨hkeeps.stands hresolved, hkeeps.metadata_eq, hkeeps.chosen, hkeeps.apart⟩
    · have hkeeps : Keeps w closes' c j' c' j'' :=
        hcourse'.passage.keeps_of_settled hfailed nofun
      obtain ⟨-, -, -, hchosen, -, hagent⟩ := hfailed
      exact ⟨hkeeps.eq hchosen hagent, hkeeps.aside (holding_of_unchosen hchosen)⟩
  · intro fault hfailed hfailure j''
    exact refuses_of_failed hfailed hfailure w j''
  · rintro rfl hresolved
    obtain ⟨r, k, hchosen, hheld⟩ := hpassage.client_of_resolved hw hfresh hresolved
    obtain ⟨-, hinit, -⟩ := id hresolved
    refine ⟨k, client_of_held hinit hchosen hheld w j', ?_⟩
    intro β act' result' c' j'' h' hrun'
    have hcourse' := h'.lawful hw _ _ j' hc
    rw [hrun'] at hcourse'
    have hkeeps : Keeps w false c j' c' j'' := hcourse'.passage.keeps_of_settled hresolved nofun
    exact client_of_held (hkeeps.initialized_eq.trans hinit) (hkeeps.chosen_eq.trans hchosen)
      hheld w j''

/-- A connection whose only candidate that applies does not work. -/
def lame : Connection where
  settings := .plain
  candidates := some [Route.pipe, Route.supplied "lame"]

def errand : Action Connection Unit := do
  let _ ← attempt hostAddress
  let _ ← attempt client
  runInside (pure ()) (fun k id => call (.work (some k) id))

/-- No candidate works; whoever asks again is refused with the same fault. -/
theorem refuses_lame : ∃ fault c j', errand Route.lameWorld lame {} = (.error fault, c, j') ∧
    c.failure = some fault ∧ j'.closed = ["lame"] ∧ ∀ j, Refuses Route.lameWorld fault c j := by
  have huse : Use Route.lameWorld false errand := by
    refine .bind (.attempt (.hostAddress false)) (fun _ => .bind (.attempt (.client false)) ?_)
    exact fun _ => .runInside (.pure ()) (fun k id => .aside false (.call rfl))
  obtain ⟨-, -, -, -, hrefuses, -⟩ := stages_of_use (j := {}) Route.calm_lameWorld .plain
    (some [Route.pipe, Route.supplied "lame"]) huse rfl
  have hfailed : (errand Route.lameWorld lame {}).2.1.Stands .failed :=
    ⟨rfl, rfl, ⟨_, rfl, rfl⟩, rfl, rfl, rfl⟩
  exact ⟨_, _, _, rfl, rfl, rfl, hrefuses _ hfailed rfl⟩

end Mooring.Connection
