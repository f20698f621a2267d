import Mooring.Proofs.Connection.Attempt

/-! The course of a connection. Between operations it stands at one of three stages. While nobody
needs it, it stays unresolved; one attempt settles it; and once it is settled, use changes nothing
but the state of its agent and whether its client is still open. -/

namespace Mooring

/-- A route without the client that it may hold. -/
def Route.released (r : Route) : Route := { r with held := none }

theorem Route.eq_of_released {r r' : Route} (h : r.released = r'.released)
    (hheld : r.held = r'.held) : r = r' := by
  obtain ⟨way, settings, held, host, machine⟩ := r
  obtain ⟨way', settings', held', host', machine'⟩ := r'
  simp only [released, Route.mk.injEq] at h hheld ⊢
  obtain ⟨hway, hsettings, -, hhost, hmachine⟩ := h
  exact ⟨hway, hsettings, hheld, hhost, hmachine⟩

namespace Connection

open Mooring.Action

variable {α β : Type} {w : World} {closes : Bool} {c c' c'' : Connection} {j j' j'' : Journal}
  {stage : Stage}

/-- What a connection consists of at a stage. Between operations no attempt is under way. -/
def Stands (c : Connection) : Stage → Prop
  | .unresolved => c.stage = .unresolved ∧ c.initialized = false ∧ c.failure = none ∧
    c.chosen = none ∧ c.metadata = none ∧ c.agent = none
  | .resolving => False
  | .resolved => c.stage = .resolved ∧ c.initialized = true ∧ c.failure = none ∧
    c.chosen.isSome = true ∧ c.metadata.isSome = true ∧ c.agent.isSome = true
  | .failed => c.stage = .failed ∧ c.initialized = false ∧
    (∃ fault, c.failure = some fault ∧ fault.problem.isException = true) ∧
    c.chosen = none ∧ c.metadata = none ∧ c.agent = none

theorem Stands.stage_eq (h : c.Stands stage) : c.stage = stage := by
  cases stage with
  | unresolved => exact h.1
  | resolving => exact h.elim
  | resolved => exact h.1
  | failed => exact h.1

/-- A connection stands at one stage only. -/
theorem Stands.unique {stage' : Stage} (h : c.Stands stage) (h' : c.Stands stage') :
    stage' = stage := h'.stage_eq.symm.trans h.stage_eq

theorem stands_unresolved (settings : Settings) (candidates : Option (List Route)) :
    Stands { settings, candidates } .unresolved := ⟨rfl, rfl, rfl, rfl, rfl, rfl⟩

/-- The clients that a connection holds: one or none. -/
def holding (c : Connection) : List Client := (c.chosen.bind Route.held).toList

theorem holding_of_unchosen (hchosen : c.chosen = none) : c.holding = [] := by
  rw [holding, hchosen]
  rfl

/-! ### Keeping what is settled -/

/-- Nothing changes but the state of the agent and whether the client is still open; the client is
closed by one call when it is let go, and not at all if nothing is to be closed. -/
structure Keeps (w : World) (closes : Bool) (c : Connection) (j : Journal) (c' : Connection)
    (j' : Journal) : Prop where
  rest : c' = { c with chosen := c'.chosen, agent := c'.agent }
  chosen : c'.chosen.map Route.released = c.chosen.map Route.released
  agent : c'.agent.isSome = c.agent.isSome
  apart : j.Apart j'
  closed : ∃ clients, j'.books w = j.books w ++ { closed := clients } ∧
    c.holding.Perm (c'.holding ++ clients) ∧ (closes = false → clients = [])

theorem Keeps.of_aside (c : Connection) (h : j.Aside j') : Keeps w closes c j c j' := by
  refine ⟨rfl, rfl, rfl, h.apart, [], ?_, by simp, fun _ => rfl⟩
  rw [Journal.books_of_aside h w]
  exact (Books.append_nil _).symm

theorem Keeps.trans (h : Keeps w closes c j c' j') (h' : Keeps w closes c' j' c'' j'') :
    Keeps w closes c j c'' j'' := by
  obtain ⟨clients, hbooks, hperm, hnone⟩ := h.closed
  obtain ⟨clients', hbooks', hperm', hnone'⟩ := h'.closed
  refine ⟨?_, h'.chosen.trans h.chosen, h'.agent.trans h.agent, h.apart.trans h'.apart,
    clients ++ clients', ?_, ?_, ?_⟩
  · have hrest := h'.rest
    rw [h.rest] at hrest
    exact hrest
  · rw [hbooks', hbooks, Books.append_assoc]
    simp [Books.append_def]
  · have hcomm : (c''.holding ++ clients' ++ clients).Perm
        (c''.holding ++ (clients ++ clients')) := by
      rw [List.append_assoc]
      exact List.perm_append_comm.append_left _
    exact (hperm.trans (hperm'.append_right clients)).trans hcomm
  · intro hcloses
    rw [hnone hcloses, hnone' hcloses]
    rfl

theorem Keeps.stage_eq (h : Keeps w closes c j c' j') : c'.stage = c.stage := by
  rw [h.rest]

theorem Keeps.initialized_eq (h : Keeps w closes c j c' j') : c'.initialized = c.initialized := by
  rw [h.rest]

theorem Keeps.failure_eq (h : Keeps w closes c j c' j') : c'.failure = c.failure := by
  rw [h.rest]

theorem Keeps.metadata_eq (h : Keeps w closes c j c' j') : c'.metadata = c.metadata := by
  rw [h.rest]

theorem Keeps.chosen_isSome (h : Keeps w closes c j c' j') :
    c'.chosen.isSome = c.chosen.isSome := by
  have hchosen := congrArg Option.isSome h.chosen
  rwa [Option.isSome_map, Option.isSome_map] at hchosen

theorem Keeps.chosen_eq_none (h : Keeps w closes c j c' j') (hchosen : c.chosen = none) :
    c'.chosen = none := by
  rw [← Option.not_isSome_iff_eq_none, h.chosen_isSome, hchosen]
  exact Bool.false_ne_true

theorem Keeps.agent_eq_none (h : Keeps w closes c j c' j') (hagent : c.agent = none) :
    c'.agent = none := by
  rw [← Option.not_isSome_iff_eq_none, h.agent, hagent]
  exact Bool.false_ne_true

/-- A connection keeps its stage. -/
theorem Keeps.stands (h : Keeps w closes c j c' j') (hc : c.Stands stage) : c'.Stands stage := by
  cases stage with
  | unresolved =>
    obtain ⟨hstage, hinit, hfailure, hchosen, hmetadata, hagent⟩ := hc
    exact ⟨h.stage_eq.trans hstage, h.initialized_eq.trans hinit, h.failure_eq.trans hfailure,
      h.chosen_eq_none hchosen, h.metadata_eq.trans hmetadata, h.agent_eq_none hagent⟩
  | resolving => exact hc.elim
  | resolved =>
    obtain ⟨hstage, hinit, hfailure, hchosen, hmetadata, hagent⟩ := hc
    exact ⟨h.stage_eq.trans hstage, h.initialized_eq.trans hinit, h.failure_eq.trans hfailure,
      h.chosen_isSome.trans hchosen, h.metadata_eq ▸ hmetadata, h.agent.trans hagent⟩
  | failed =>
    obtain ⟨hstage, hinit, ⟨fault, hfailure, hf⟩, hchosen, hmetadata, hagent⟩ := hc
    exact ⟨h.stage_eq.trans hstage, h.initialized_eq.trans hinit,
      ⟨fault, h.failure_eq.trans hfailure, hf⟩, h.chosen_eq_none hchosen,
      h.metadata_eq.trans hmetadata, h.agent_eq_none hagent⟩

/-- Where nothing has been chosen, nothing changes. -/
theorem Keeps.eq (h : Keeps w closes c j c' j') (hchosen : c.chosen = none)
    (hagent : c.agent = none) : c' = c := by
  rw [h.rest, h.chosen_eq_none hchosen, h.agent_eq_none hagent, ← hchosen, ← hagent]

/-- Where nothing is closed, the route stays as it is. -/
theorem Keeps.chosen_eq (h : Keeps w false c j c' j') : c'.chosen = c.chosen := by
  obtain ⟨clients, -, hperm, hnone⟩ := h.closed
  rw [hnone rfl, List.append_nil] at hperm
  have hreleased := h.chosen
  cases hc : c.chosen with
  | none => exact h.chosen_eq_none hc
  | some r =>
    cases hc' : c'.chosen with
    | none => simp [hc, hc'] at hreleased
    | some r' =>
      simp only [hc, hc', Option.map_some, Option.some.injEq] at hreleased
      simp only [holding, hc, hc', Option.bind_some] at hperm
      have hheld : r'.held = r.held := by
        cases hk : r.held <;> cases hk' : r'.held <;> simp_all
      rw [Route.eq_of_released hreleased hheld]

/-! ### The course of a run -/

/-- From one journal to another, a connection is kept as it is, or an unresolved one is settled by
one attempt and kept after it. -/
inductive Passage (w : World) (closes : Bool) (c : Connection) (j : Journal) (c' : Connection)
    (j' : Journal) : Prop
  | keeps (h : Keeps w closes c j c' j')
  | settles {j₁ j₂ : Journal} {ended : Except Fault Unit} {c₁ : Connection}
    (unresolved : c.Stands .unresolved) (before : Keeps w closes c j c j₁)
    (attempt : resolve w c j₁ = (ended, c₁, j₂)) (after : Keeps w closes c₁ j₂ c' j')

/-- An attempt from an unresolved connection settles it, and leaves open the client that it then
holds. -/
theorem settled_of_resolve (hw : w.Calm) (hc : c.Stands .unresolved) {ended : Except Fault Unit}
    (h : resolve w c j = (ended, c', j')) :
    (∃ books, j'.books w = j.books w ++ books ∧ c.Attempted c'.holding books) ∧
      (c'.Stands .resolved ∧ ended = .ok () ∧
          (∃ r k, c'.chosen = some r ∧ r.held = some k) ∨
        ∃ fault, c'.Stands .failed ∧ c'.failure = some fault ∧ ended = .error fault) := by
  obtain ⟨-, hinit, hfailure, hchosen, hmetadata, hagent⟩ := hc
  obtain ⟨tried, books, j₁, hbooks, ⟨fault, hf, hrun, hattempted⟩ |
    ⟨route, link, k, hheld, hrun, hattempted⟩⟩ := resolve_cases hw c j
  · rw [hrun] at h
    cases h
    have hholding : (c.failedWith tried fault).holding = [] := by
      simp [holding, failedWith, hchosen]
    refine ⟨⟨books, hbooks, hholding ▸ hattempted⟩, .inr ⟨fault, ?_, rfl, rfl⟩⟩
    exact ⟨rfl, hinit, ⟨fault, rfl, hf⟩, hchosen, hmetadata, hagent⟩
  · rw [hrun] at h
    cases h
    have hholding : (c.linkedBy tried route link).holding = [k] := by
      simp [holding, linkedBy, hheld]
    refine ⟨⟨books, hbooks, hholding ▸ hattempted⟩, .inl ⟨?_, rfl, route, k, rfl, hheld⟩⟩
    exact ⟨rfl, rfl, hfailure, rfl, rfl, rfl⟩

/-- An attempt from an unresolved connection settles it. -/
theorem stands_of_resolve (hw : w.Calm) (hc : c.Stands .unresolved) {ended : Except Fault Unit}
    (h : resolve w c j = (ended, c', j')) :
    c'.Stands .resolved ∧ ended = .ok () ∨
      ∃ fault, c'.Stands .failed ∧ c'.failure = some fault ∧ ended = .error fault := by
  rcases (settled_of_resolve hw hc h).2 with ⟨hc', hended, -⟩ | hfailed
  · exact .inl ⟨hc', hended⟩
  · exact .inr hfailed

theorem Passage.stands (hw : w.Calm) (h : Passage w closes c j c' j') (hc : c.Stands stage) :
    ∃ stage', c'.Stands stage' := by
  cases h with
  | keeps h => exact ⟨stage, h.stands hc⟩
  | settles unresolved before attempt after =>
    rcases stands_of_resolve hw unresolved attempt with ⟨hc₁, -⟩ | ⟨fault, hc₁, -, -⟩
    · exact ⟨.resolved, after.stands hc₁⟩
    · exact ⟨.failed, after.stands hc₁⟩

/-- Runs in a row make no second attempt. -/
theorem Passage.trans (hw : w.Calm) (hc : c.Stands stage) (h : Passage w closes c j c' j')
    (h' : Passage w closes c' j' c'' j'') : Passage w closes c j c'' j'' := by
  cases h with
  | keeps h =>
    cases h' with
    | keeps h' => exact .keeps (h.trans h')
    | settles unresolved before attempt after =>
      -- nothing can have changed before the attempt
      obtain rfl := (h.stands hc).unique unresolved
      obtain ⟨-, -, -, hchosen, -, hagent⟩ := hc
      obtain rfl := h.eq hchosen hagent
      exact .settles unresolved (h.trans before) attempt after
  | settles unresolved before attempt after =>
    cases h' with
    | keeps h' => exact .settles unresolved before attempt (after.trans h')
    | settles unresolved' before' attempt' after' =>
      rcases stands_of_resolve hw unresolved attempt with ⟨hc₁, -⟩ | ⟨fault, hc₁, -, -⟩
      · exact absurd ((after.stands hc₁).unique unresolved') nofun
      · exact absurd ((after.stands hc₁).unique unresolved') nofun

/-- Where a run of an action on a connection leads. -/
structure Course (w : World) (closes : Bool) (c : Connection) (j : Journal)
    (ending : Except Fault α × Connection × Journal) : Prop where
  passage : Passage w closes c j ending.2.1 ending.2.2
  allowed : ∀ fault, ending.1 = .error fault → w.Allows fault

theorem Course.after (hw : w.Calm) (hc : c.Stands stage) (h : Passage w closes c j c' j')
    {ending : Except Fault α × Connection × Journal} (he : Course w closes c' j' ending) :
    Course w closes c j ending :=
  ⟨h.trans hw hc he.passage, he.allowed⟩

/-- An action that takes such a course from wherever a connection stands. -/
def Lawful (w : World) (closes : Bool) (act : Action Connection α) : Prop :=
  ∀ c stage j, c.Stands stage → Course w closes c j (act w c j)

theorem Lawful.aside {act : Action Connection α} (h : StandsAside w id act) :
    Lawful w closes act := by
  intro c stage j _
  refine ⟨.keeps ?_, (h c j).allowed⟩
  have hkept : (act w c j).2.1 = c := (h c j).kept
  rw [hkept]
  exact .of_aside c (h c j).aside

theorem Course.bind (hw : w.Calm) (hc : c.Stands stage) {act : Action Connection α}
    (h : Course w closes c j (act w c j)) {next : α → Action Connection β}
    (hn : ∀ a, Lawful w closes (next a)) : Course w closes c j ((act >>= next) w c j) := by
  rcases e : act w c j with ⟨fault | a, c', j'⟩
  · rw [e] at h
    rw [run_bind_error e]
    exact ⟨h.passage, fun _ hf => by cases hf; exact h.allowed fault rfl⟩
  · rw [e] at h
    rw [run_bind_ok e]
    obtain ⟨stage', hc'⟩ := h.passage.stands hw hc
    exact .after hw hc h.passage (hn a c' stage' j' hc')

theorem Lawful.bind (hw : w.Calm) {act : Action Connection α} {next : α → Action Connection β}
    (h : Lawful w closes act) (hn : ∀ a, Lawful w closes (next a)) :
    Lawful w closes (act >>= next) :=
  fun c stage j hc => .bind hw hc (h c stage j hc) hn

/-- After an attempt, only faults that the world allows need to be handled. -/
theorem Lawful.attempt (hw : w.Calm) {act : Action Connection α}
    {next : Except Fault α → Action Connection β} (h : Lawful w closes act)
    (hok : ∀ a, Lawful w closes (next (.ok a)))
    (herror : ∀ fault, w.Allows fault → Lawful w closes (next (.error fault))) :
    Lawful w closes (Action.attempt act >>= next) := by
  intro c stage j hc
  have hact := h c stage j hc
  obtain ⟨stage', hc'⟩ := hact.passage.stands hw hc
  rw [run_bind_ok (run_attempt act)]
  refine .after hw hc hact.passage ?_
  cases e : (act w c j).1 with
  | ok a => exact hok a _ stage' _ hc'
  | error fault => exact herror fault (hact.allowed fault e) _ stage' _ hc'

/-- What is got is the connection of the run. -/
theorem Lawful.afterGet {next : Connection → Action Connection α}
    (h : ∀ c stage j, c.Stands stage → Course w closes c j (next c w c j)) :
    Lawful w closes (get >>= next) := h

theorem Lawful.afterRead {next : World → Action Connection α} (h : Lawful w closes (next w)) :
    Lawful w closes (MonadReaderOf.read >>= next) := h

end Connection

end Mooring
