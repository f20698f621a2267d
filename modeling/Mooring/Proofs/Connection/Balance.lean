import Mooring.Proofs.Connection.Use

/-! The balance of clients: whatever is opened is closed once, but for the one client that the
connection holds. Whoever fails to make use of a client closes it, and what comes of the closing is
never told instead of the failure. -/

namespace Mooring.Connection

open Mooring.Action

variable {α : Type} {w : World} {closes : Bool} {c c' : Connection} {j j' : Journal}

/-- What is held before and what is opened is what is closed and what is held after. -/
theorem Passage.balance (hw : w.Calm) (h : Passage w closes c j c' j') :
    ∃ books, j'.books w = j.books w ++ books ∧
      (c.holding ++ books.opened).Perm (books.closed ++ c'.holding) := by
  cases h with
  | keeps h =>
    obtain ⟨clients, hbooks, hperm, -⟩ := h.closed
    refine ⟨_, hbooks, ?_⟩
    rw [List.append_nil]
    exact hperm.trans List.perm_append_comm
  | settles unresolved before attempt after =>
    obtain ⟨-, -, -, hchosen, -⟩ := id unresolved
    have hheld : c.holding = [] := holding_of_unchosen hchosen
    obtain ⟨clients, hbefore, hnone, -⟩ := before.closed
    obtain ⟨clients', hafter, hlet, -⟩ := after.closed
    obtain ⟨⟨books, hbooks, hattempted⟩, -⟩ := settled_of_resolve hw unresolved attempt
    rw [hheld, List.nil_append, List.nil_perm] at hnone
    subst hnone
    refine ⟨{ closed := [] } ++ (books ++ { closed := clients' }), ?_, ?_⟩
    · rw [hafter, hbooks, hbefore, Books.append_assoc, Books.append_assoc]
    · simp only [Books.append_def, hheld, List.nil_append, List.append_nil, List.append_assoc]
      exact (hattempted.balance.trans (hlet.append_left _)).trans
        (List.perm_append_comm.append_left _)

/-- After every use from its beginning, a connection holds one client or none, and just as many
are open: every client that was opened has been closed once but the one that is held. A client that
does not get through is closed by one call, and so is the client of a route that is chosen in vain;
the failure that is told is the first one, whatever comes of the call. -/
theorem balance_of_use (hw : w.Calm) (settings : Settings) (candidates : Option (List Route))
    {act : Action Connection α} (h : Use w closes act) {result : Except Fault α}
    (hrun : act w { settings, candidates } j = (result, c, j')) :
    (∃ books, j'.books w = j.books w ++ books ∧
      books.opened.Perm (books.closed ++ (c.chosen.bind Route.held).toList) ∧
      (books.opened.length - books.closed.length : Int) =
        if (c.chosen.bind Route.held).isSome then 1 else 0) ∧
    (∀ {r r₀ r₁ : Route} {j j₀ j₁ : Journal} {k : Client} {fault : Fault},
      Route.openClient w r j = (.ok k, r₀, j₀) → Route.greet k w r₀ j₀ = (.error fault, r₁, j₁) →
        j₀.Aside j₁ ∧ ∃ j₂, Route.probe w r j = (.error fault, r₁, j₂) ∧
          (j₁.afterCall w (.client k .close)).Aside j₂) ∧
    ∀ {c : Connection} {tried : List Route} {route : Route} {j j₁ j₂ : Journal} {k : Client}
      {fault : Fault}, route.held = some k →
      Route.choose c.routes w c.attempting j = (.ok (.ok route, tried), c.attempting, j₁) →
      inspect c.settings route w (c.havingTried tried) j₁ =
        (.error fault, c.havingTried tried, j₂) →
        j₂.closed = j₁.closed ∧ ∃ j₃, resolve w c j = (.error fault, c.failedWith tried fault, j₃) ∧
          (j₂.afterCall w (.client k .close)).Aside j₃ := by
  refine ⟨?_, ?_, ?_⟩
  · have hcourse := h.lawful hw _ _ j (stands_unresolved settings candidates)
    rw [hrun] at hcourse
    obtain ⟨books, hbooks, hperm⟩ := hcourse.passage.balance hw
    have hheld : holding { settings, candidates } = [] := rfl
    rw [hheld, List.nil_append] at hperm
    have hlength : books.opened.length =
      books.closed.length + (c.chosen.bind Route.held).toList.length := by
      rw [hperm.length_eq, List.length_append]
      rfl
    refine ⟨books, hbooks, hperm, ?_⟩
    cases hk : c.chosen.bind Route.held with
    | none =>
      rw [hk, Option.toList_none, List.length_nil] at hlength
      simp only [Option.isSome_none, Bool.false_eq_true, if_false]
      omega
    | some k =>
      rw [hk, Option.toList_some, List.length_singleton] at hlength
      simp only [Option.isSome_some, if_true]
      omega
  · intro r r₀ r₁ j j₀ j₁ k fault hopen hgreet
    exact ⟨(Route.standsAside_greet k).aside hgreet, Route.probe_of_ungreeted hw hopen hgreet⟩
  · intro c tried route j j₁ j₂ k fault hheld hchoose hinspect
    have hasks := endsAsking_inspect w c.settings route (c.havingTried tried) j₁
    rw [hinspect] at hasks
    obtain ⟨⟨m, n, hbooks, -, -⟩, -, hallowed⟩ := hasks
    have hclosed : j₂.closed = j₁.closed ++ [] := congrArg Books.closed hbooks
    rw [List.append_nil] at hclosed
    exact ⟨hclosed, resolve_of_uninspected hw (hallowed fault rfl hw) hheld hchoose hinspect⟩

/-- A world in which one client does not get through, the next does not tell about its daemon, and
neither can be closed properly. -/
def muteWorld : World := World.plain (fun c => match c with
  | .client "lame" .ping => some (.os .timeout none "timed out" none)
  | .client "mute" .info => some (.runtime "no answer")
  | .client _ .close => some (.runtime "already closed")
  | _ => none)

theorem calm_muteWorld : muteWorld.Calm := by
  refine World.calm_plain (fun c problem h => ?_)
  split at h <;> cases h <;> rfl

/-- A connection with two candidates that both get a client. -/
def mute : Connection where
  settings := .plain
  candidates := some [Route.supplied "lame", Route.supplied "mute"]

/-- Asks for the client, closes, and asks again. -/
def askTwice : Action Connection Client := do
  let _ ← attempt client
  close
  client

/-- Both clients are closed once, and the fault is the daemon's silence. -/
theorem balance_mute : ∃ c j', askTwice muteWorld mute {} =
      (.error (.of (.runtime "no answer")), c, j') ∧
    (j'.opened muteWorld).Perm j'.closed ∧ j'.closed = ["lame", "mute"] := by
  have huse : Use muteWorld true askTwice :=
    .bind (.attempt (.client true)) (fun _ => .bind .close (fun _ => .client true))
  obtain ⟨⟨books, hbooks, hperm, -⟩, -⟩ := balance_of_use (j := {}) calm_muteWorld .plain
    (some [Route.supplied "lame", Route.supplied "mute"]) huse rfl
  have hopened : (askTwice muteWorld mute {}).2.2.opened muteWorld = books.opened :=
    congrArg Books.opened hbooks
  have hclosed : (askTwice muteWorld mute {}).2.2.closed = books.closed :=
    congrArg Books.closed hbooks
  have hperm : books.opened.Perm (books.closed ++ []) := hperm
  rw [List.append_nil, ← hopened, ← hclosed] at hperm
  exact ⟨_, _, rfl, hperm, rfl⟩

end Mooring.Connection
