import Mooring.Proofs.CommandLine.Results
import Mooring.Proofs.Connection.Balance
import Mooring.Proofs.Connection.Tidy
import Mooring.Proofs.Sweep.Course

/-! Requests at work. A request uses a connection in the regular way; the helper containers it
creates are removed, and it shows one thing if all goes well, and otherwise nothing but what the
console has refused. -/

namespace Mooring

open Mooring.Action

variable {σ α β ρ : Type} {w : World} {view : σ → ρ} {inv : σ → Prop}

/-! ### The sweep -/

namespace Sweep

theorem Sweeping.isOrdinary {k : Client} {filters : List String} {x : Step}
    (h : Sweeping k filters x) : x.isOrdinary = true := by
  cases h with
  | listed answer kind => cases kind <;> rfl
  | removed id answer kind => cases kind <;> rfl
  | line h => exact h.isOrdinary

theorem takes_run (k : Client) (labels : Record Value) :
    Takes w .ordinary inv (run k labels : Action σ SweepCount) := by
  refine fun s hs => (run_does labels s).mono ?_
  rintro steps r _ ⟨hsweeps, rfl⟩
  exact ⟨fun x hx => (hsweeps.sweeping x hx).isOrdinary, hs⟩

theorem standsAside_removeOne (k : Client) (kind : ResourceKind) (count : SweepCount)
    (id : ResourceId) : StandsAside w view (removeOne k kind count id : Action σ SweepCount) := by
  have removes : StandsAside w view (remove k id kind : Action σ Unit) := by
    cases kind <;> exact .call rfl
  refine .attempt removes (fun _ => .pure _) (fun fault hf => .ite (.pure _) (.ite ?_ (.fail hf)))
  exact .bind (.log rfl) (fun _ => .pure _)

theorem standsAside_run (k : Client) (labels : Record Value) :
    StandsAside w view (run k labels : Action σ SweepCount) := by
  have lists (filters : List String) (kind : ResourceKind) :
      StandsAside w view (list k filters kind : Action σ (List ResourceId)) := by
    cases kind <;> exact .call rfl
  refine .bind (.foldlM (fun count kind => ?_) _ _) (fun count => ?_)
  · exact .bind (lists _ kind) (fun ids => .foldlM (standsAside_removeOne k kind) count ids)
  · exact .bind (.log rfl) (fun _ => .pure _)

end Sweep

namespace CommandLine

/-! ### Requests -/

theorem standsAside_print (what : Shown) :
    StandsAside w view (print what : Action σ Unit) :=
  fun _ j => ⟨.add rfl j, rfl, fun _ h => World.allows_of_console h⟩

theorem takes_row {kind : Stretch} (name : String) (value : Value) :
    Takes w kind inv (row name value : Action σ (List String)) :=
  .bind (.ofExcept _) (fun _ => .pure _)

theorem standsAside_row (name : String) (value : Value) :
    StandsAside w view (row name value : Action σ (List String)) :=
  .bind (.ofExcept (.mapError (fun _ => rfl) _)) (fun _ => .pure _)

theorem harmless_exitCode (status : Value) : Harmless (exitCode status) :=
  .bind (.table status) (fun _ => .ok _)

theorem harmless_outputBytes (output : Output) : Harmless (outputBytes output) := by
  cases output with
  | bytes bs => exact .ok bs
  | text s => exact .error rfl

theorem takes_collectOutput (client : Client) (id : ResourceId) :
    Takes w .ordinary inv (collectOutput client id : Action σ (Value × String)) := by
  refine .bind (.call (fun _ => rfl)) (fun status => ?_)
  refine .bind (.call (fun _ => rfl)) (fun output => ?_)
  exact .bind (.ofExcept _) (fun code => .bind (.ofExcept _) (fun bytes => .pure _))

theorem standsAside_collectOutput (client : Client) (id : ResourceId) :
    StandsAside w view (collectOutput client id : Action σ (Value × String)) := by
  refine .bind (.call rfl) (fun status => .bind (.call rfl) (fun output => ?_))
  refine .bind (.ofExcept (harmless_exitCode status)) (fun code => ?_)
  exact .bind (.ofExcept (harmless_outputBytes output)) (fun bytes => .pure _)

open Connection

theorem use_carryOut (request : Request) : Use w true (carryOut request) := by
  have prints (what : Shown) (code : Value) :
      Use w true (do print what; return code : Action Connection Value) :=
    .aside true (.bind (standsAside_print what) (fun _ => .pure code))
  have rows (name : String) (value : Value) : Use w true (row name value) :=
    .aside true (standsAside_row name value)
  cases request with
  | info =>
    refine .bind (.client true) (fun _ => .bind (.daemon true) (fun daemon => ?_))
    refine .bind (.route true) (fun route => .bind (.aside true ?_) (fun description => ?_))
    · exact .bind .read (fun _ => .pure _)
    · refine .bind (rows _ _) (fun strategy => .bind (.hostAddress true) (fun address => ?_))
      refine .bind (rows _ _) (fun host => .bind (rows _ _) (fun server => ?_))
      refine .bind (rows _ _) (fun api => .bind (rows _ _) (fun system => ?_))
      refine .bind (rows _ _) (fun memory => .bind (rows _ _) (fun storage => ?_))
      refine .bind (rows _ _) (fun execution => .bind (.aside true .read) (fun here => ?_))
      exact .bind (rows _ _) (fun session => prints _ _)
  | run command =>
    refine .bind (.runInside (.modify (fun _ => rfl)) (fun k id => ?_)) (fun _ => prints _ _)
    exact .aside true (standsAside_collectOutput k id)
  | prune session =>
    refine .bind (.client true) (fun client => ?_)
    exact .bind (.aside true (Sweep.standsAside_run _ _)) (fun count => prints _ _)

/-! ### What is shown -/

/-- What a request has handed to the console when it ends: its result, unless it came to trouble
before that or the console refused it. -/
inductive Reported (w : World) (request : Request) (c : Connection) :
    Except Fault Value → List Shown → Prop
  | failed (fault : Fault) : Reported w request c (.error fault) []
  | refused {what : Shown} {problem : Problem} (h : ResultOf w c request what)
    (hrefused : w.Refuses what problem) : Reported w request c (.error (.of problem)) [what]
  | finished (code : Value) {what : Shown} (h : ResultOf w c request what) :
    Reported w request c (.ok code) [what]

/-- What is handed to the console although a problem has ended it all: nothing, or something that
was refused for just this. -/
def Withheld (w : World) (good : Shown → Prop) (problem : Problem) (shown : List Shown) : Prop :=
  shown = [] ∨ ∃ what, good what ∧ shown = [what] ∧ w.Refuses what problem

theorem Withheld.mono {good good' : Shown → Prop} {problem : Problem} {shown : List Shown}
    (h : Withheld w good problem shown) (hg : ∀ what, good what → good' what) :
    Withheld w good' problem shown :=
  h.imp_right (fun ⟨what, hwhat, hshown⟩ => ⟨what, hg what hwhat, hshown⟩)

theorem Reported.of_error {request : Request} {c : Connection} {fault : Fault} {shown : List Shown}
    (h : Reported w request c (.error fault) shown) :
    Withheld w (ResultOf w c request) fault.problem shown := by
  cases h with
  | failed fault => exact .inl rfl
  | refused h hrefused => exact .inr ⟨_, h, rfl, hrefused⟩

theorem Reported.of_ok {request : Request} {c : Connection} {code : Value} {shown : List Shown}
    (h : Reported w request c (.ok code) shown) :
    ∃ what, ResultOf w c request what ∧ shown = [what] := by
  cases h with
  | finished _ h => exact ⟨_, h, rfl⟩

theorem takes_prepare (request : Request) : Takes w (.tidy none) Idle (prepare request) := by
  cases request with
  | info =>
    refine .bind takes_client (fun _ => .bind takes_daemon (fun daemon => ?_))
    refine .bind (takes_routeFor _) (fun route => .bind (route.takes_describe.tidy none) ?_)
    refine fun description => .bind (takes_row _ _) (fun strategy => .bind takes_hostAddress ?_)
    refine fun address => .bind (takes_row _ _) (fun host => .bind (takes_row _ _) ?_)
    refine fun server => .bind (takes_row _ _) (fun api => .bind (takes_row _ _) ?_)
    refine fun system => .bind (takes_row _ _) (fun memory => .bind (takes_row _ _) ?_)
    refine fun storage => .bind (takes_row _ _) (fun execution => .bind .read (fun here => ?_))
    exact .bind (takes_row _ _) (fun session => .pure _)
  | run command =>
    refine .bind (takes_runInside (.modify (fun _ => id)) (fun k id => ?_)) (fun _ => .pure _)
    exact (takes_collectOutput k id).tidy _
  | prune session =>
    refine .bind takes_client (fun client => ?_)
    exact .bind ((Sweep.takes_run _ _).tidy none) (fun count => .pure _)

theorem show_does {request : Request} {c : Connection} {what : Shown}
    (h : ResultOf w c request what) (code : Value) :
    Does w (do print what; return code) c (fun steps r c' => c' = c ∧
      holding Step.helper? Step.removedHelper? none steps = some none ∧
      Reported w request c r (steps.filterMap Step.shown?)) := by
  refine .afterPrint ?_ (fun problem hrefused => ⟨rfl, rfl, .refused h hrefused⟩)
  exact .pure ⟨rfl, rfl, .finished code h⟩

/-- On an idle connection a request holds no helper container in the end, and it shows its result if
it comes to its end. -/
theorem carryOut_does (request : Request) {c : Connection} (hc : c.Idle) :
    Does w (carryOut request) c (fun steps r c' => c'.Idle ∧
      holding Step.helper? Step.removedHelper? none steps = some none ∧
      Reported w request c' r (steps.filterMap Step.shown?)) := by
  rw [carryOut_eq]
  intro j
  rcases hprepare : prepare request w c j with ⟨fault | ⟨what, code⟩, c₁, j₁⟩
  · obtain ⟨steps, hsteps, htidy, hc₁⟩ := (takes_prepare request c hc).run hprepare
    rw [run_bind_error hprepare]
    exact ⟨steps, hsteps, hc₁, htidy.helper, by rw [htidy.shown]; exact .failed fault⟩
  · obtain ⟨steps, hsteps, htidy, hc₁⟩ := (takes_prepare request c hc).run hprepare
    rw [run_bind_ok hprepare]
    rcases hshow : (do print what; return code : Action Connection Value) w c₁ j₁
      with ⟨r, c', j'⟩
    obtain ⟨rest, hrest, rfl, hheld, hreported⟩ :=
      (show_does (resultOf_of_prepare hprepare) code).run hshow
    refine ⟨steps ++ rest, ?_, hc₁, ?_, ?_⟩
    · rw [← List.append_assoc, ← hsteps]
      exact hrest
    · rw [holding_append, htidy.helper]
      exact hheld
    · rw [List.filterMap_append, htidy.shown]
      exact hreported

end CommandLine

end Mooring
