import Mooring.Proofs.Run

/-! Runs step by step, each call with the answer that the world gave to it. What an action does is
told by its steps, its result and the object it leaves; there is one rule for each way in which
actions are put together. -/

namespace Mooring

/-- A call with its answer, a line that was written, or something for the console with what came of
it. -/
inductive Step where
  | asked (call : Call) (answer : Except Problem call.Answer)
  | wrote (level : Level) (message : String) (fields : Record Value)
  | showed (what : Shown) (answer : Except Problem Unit)

/-- A step that writes a line and asks for nothing. -/
inductive Step.IsLine : Step → Prop
  | wrote (level : Level) (message : String) (fields : Record Value) :
    IsLine (.wrote level message fields)

/-- The step that an event was, after what had happened before it. -/
def Event.step (w : World) (past : List Event) : Event → Step
  | .called c => .asked c (w.answer past c).result
  | .logged level message fields => .wrote level message fields
  | .shown what => .showed what (w.console past what)

def Event.stepsIn (w : World) (past : List Event) : List Event → List Step
  | [] => []
  | e :: es => e.step w past :: stepsIn w (past ++ [e]) es

theorem Event.stepsIn_append (w : World) (past es fs : List Event) :
    stepsIn w past (es ++ fs) = stepsIn w past es ++ stepsIn w (past ++ es) fs := by
  induction es generalizing past with
  | nil => simp [stepsIn]
  | cons e es ih => simp [stepsIn, ih]

/-- The world answers a call so at some time. -/
def World.Gives (w : World) (c : Call) (answer : Except Problem c.Answer) : Prop :=
  ∃ past, (w.answer past c).result = answer

/-- The console refuses something at some time, for a reason. -/
def World.Refuses (w : World) (what : Shown) (problem : Problem) : Prop :=
  ∃ past, w.console past what = .error problem

namespace Journal

def steps (w : World) (j : Journal) : List Step := Event.stepsIn w [] j.events

theorem steps_add (w : World) (j : Journal) (e : Event) :
    (j.add e).steps w = j.steps w ++ [e.step w j.events] := by
  simp [steps, Event.stepsIn_append, Event.stepsIn]

theorem steps_afterCall (w : World) (j : Journal) (c : Call) :
    (j.afterCall w c).steps w = j.steps w ++ [.asked c (w.answer j.events c).result] :=
  steps_add w j (.called c)

end Journal

namespace Action

variable {σ τ α β : Type} {w : World} {s s' : σ} {act : Action σ α}
  {post : List Step → Except Fault α → σ → Prop}

/-- From an object on, whenever it begins, an action takes steps and comes to a result and an
object that fit them. -/
def Does (w : World) (act : Action σ α) (s : σ)
    (post : List Step → Except Fault α → σ → Prop) : Prop :=
  ∀ j, ∃ steps, (act w s j).2.2.steps w = j.steps w ++ steps ∧
    post steps (act w s j).1 (act w s j).2.1

theorem Does.run (h : Does w act s post) {r : Except Fault α} {j j' : Journal}
    (e : act w s j = (r, s', j')) :
    ∃ steps, j'.steps w = j.steps w ++ steps ∧ post steps r s' := by
  simpa only [e] using h j

theorem Does.mono {post' : List Step → Except Fault α → σ → Prop} (h : Does w act s post)
    (hp : ∀ steps r s', post steps r s' → post' steps r s') : Does w act s post' := by
  intro j
  obtain ⟨steps, hsteps, hpost⟩ := h j
  exact ⟨steps, hsteps, hp _ _ _ hpost⟩

/-! ### Single steps -/

theorem Does.pure {a : α} (h : post [] (.ok a) s) : Does w (Pure.pure a) s post :=
  fun _ => ⟨[], (List.append_nil _).symm, h⟩

theorem Does.fail {fault : Fault} (h : post [] (.error fault) s) : Does w (fail fault) s post :=
  fun _ => ⟨[], (List.append_nil _).symm, h⟩

theorem Does.ofExcept {result : Except Problem α} (h : post [] (result.mapError Fault.of) s) :
    Does w (ofExcept result) s post :=
  fun _ => ⟨[], (List.append_nil _).symm, h⟩

theorem Does.change {f : σ → σ} {post : List Step → Except Fault PUnit → σ → Prop}
    (h : post [] (.ok ()) (f s)) : Does w (modify f) s post :=
  fun _ => ⟨[], (List.append_nil _).symm, h⟩

theorem Does.log {level : Level} {message : String} {fields : Record Value}
    {post : List Step → Except Fault Unit → σ → Prop}
    (h : post [.wrote level message fields] (.ok ()) s) :
    Does w (log level message fields) s post :=
  fun j => ⟨_, j.steps_add w _, h⟩

theorem Does.call {c : Call} {post : List Step → Except Fault c.Answer → σ → Prop}
    (h : ∀ answer, w.Gives c answer → post [.asked c answer] (answer.mapError Fault.of) s) :
    Does w (call c) s post :=
  fun j => ⟨_, j.steps_afterCall w c, h _ ⟨j.events, rfl⟩⟩

theorem Does.sleep {milliseconds : Nat} {post : List Step → Except Fault Unit → σ → Prop}
    (h : ∀ answer, post [.asked (.sleep milliseconds) answer] (answer.mapError Fault.of) s) :
    Does w (sleep milliseconds) s post := by
  intro j
  rw [Action.sleep, run_call]
  have h := h (w.answer j.events (.sleep milliseconds)).result
  have hsteps := j.steps_afterCall w (.sleep milliseconds)
  cases e : (w.answer j.events (.sleep milliseconds)).result with
  | ok u =>
    rw [e] at h hsteps
    exact ⟨_, hsteps, h⟩
  | error problem =>
    rw [e] at h hsteps
    exact ⟨_, hsteps, h⟩

theorem Does.within {ρ : Type} {put : τ → ρ → ρ} {part : τ} {whole : ρ} {act : Action τ α}
    {inner : List Step → Except Fault α → τ → Prop} (h : Does w act part inner) :
    Does w (within put part act) whole (fun steps r s' =>
      ∃ part', inner steps r part' ∧ s' = put part' whole) := by
  intro j
  obtain ⟨steps, hsteps, hinner⟩ := h j
  exact ⟨steps, hsteps, _, hinner, rfl⟩

/-! ### Steps in a row -/

section Row

variable {next : α → Action σ β} {post : List Step → Except Fault β → σ → Prop}

theorem Does.bind {first : List Step → Except Fault α → σ → Prop} (h : Does w act s first)
    (hok : ∀ steps a s', first steps (.ok a) s' →
      Does w (next a) s' (fun rest => post (steps ++ rest)))
    (herror : ∀ steps fault s', first steps (.error fault) s' → post steps (.error fault) s') :
    Does w (act >>= next) s post := by
  intro j
  rcases e : act w s j with ⟨fault | a, s', j'⟩
  · obtain ⟨steps, hsteps, hfirst⟩ := h.run e
    rw [run_bind_error e]
    exact ⟨steps, hsteps, herror steps fault s' hfirst⟩
  · obtain ⟨steps, hsteps, hfirst⟩ := h.run e
    obtain ⟨rest, hrest, hpost⟩ := hok steps a s' hfirst j'
    rw [run_bind_ok e]
    exact ⟨steps ++ rest, by rw [hrest, hsteps, List.append_assoc], hpost⟩

theorem Does.attempt {next : Except Fault α → Action σ β}
    {first : List Step → Except Fault α → σ → Prop} (h : Does w act s first)
    (hn : ∀ steps r s', first steps r s' → Does w (next r) s' (fun rest => post (steps ++ rest))) :
    Does w (attempt act >>= next) s post := by
  have hattempt : Does w (Action.attempt act) s (fun steps r s' => ∃ r', r = .ok r' ∧
      first steps r' s') := fun j =>
    have ⟨steps, hsteps, hfirst⟩ := h j
    ⟨steps, hsteps, _, rfl, hfirst⟩
  refine hattempt.bind ?_ ?_
  · rintro steps r s' ⟨_, ⟨⟩, hfirst⟩
    exact hn steps r s' hfirst
  · rintro steps fault s' ⟨_, ⟨⟩, -⟩

theorem Does.afterGet {next : σ → Action σ β} (h : Does w (next s) s post) :
    Does w (get >>= next) s post := h

theorem Does.afterRead {next : World → Action σ β} (h : Does w (next w) s post) :
    Does w (read >>= next) s post := h

theorem Does.afterClock {next : Nat → Action σ β} (h : ∀ now, Does w (next now) s post) :
    Does w (clock >>= next) s post := fun j => h j.clock j

theorem Does.afterChange {f : σ → σ} {next : PUnit → Action σ β}
    (h : Does w (next ()) (f s) post) : Does w (modify f >>= next) s post := h

theorem Does.afterLog {level : Level} {message : String} {fields : Record Value}
    {next : Unit → Action σ β}
    (h : Does w (next ()) s (fun rest => post (.wrote level message fields :: rest))) :
    Does w (Action.log level message fields >>= next) s post := by
  intro j
  obtain ⟨rest, hrest, hpost⟩ := h (j.add (.logged level message fields))
  rw [run_bind_ok (run_log _ _ _)]
  exact ⟨_, by rw [hrest, Journal.steps_add, List.append_assoc]; rfl, hpost⟩

theorem does_call (c : Call) :
    Does w (Action.call c) s (fun steps r s' => ∃ answer, w.Gives c answer ∧
      steps = [.asked c answer] ∧ r = answer.mapError Fault.of ∧ s' = s) :=
  .call (fun answer hanswer => ⟨answer, hanswer, rfl, rfl, rfl⟩)

/-- A call whose trouble ends the action. -/
theorem Does.ask {c : Call} {next : c.Answer → Action σ β}
    (hok : ∀ a, w.Gives c (.ok a) → Does w (next a) s (fun rest => post (.asked c (.ok a) :: rest)))
    (herror : ∀ problem, w.Gives c (.error problem) →
      post [.asked c (.error problem)] (.error (.of problem)) s) :
    Does w (Action.call c >>= next) s post := by
  refine (does_call c).bind ?_ ?_
  · rintro _ a _ ⟨answer, hanswer, rfl, ha, rfl⟩
    cases answer <;> cases ha
    exact hok a hanswer
  · rintro _ fault _ ⟨answer, hanswer, rfl, hfault, rfl⟩
    cases answer <;> cases hfault
    exact herror _ hanswer

theorem Does.afterSleep {milliseconds : Nat} {next : Unit → Action σ β}
    (hok : Does w (next ()) s (fun rest => post (.asked (.sleep milliseconds) (.ok ()) :: rest)))
    (herror : ∀ problem,
      post [.asked (.sleep milliseconds) (.error problem)] (.error (.of problem)) s) :
    Does w (Action.sleep milliseconds >>= next) s post := by
  have hsleep : Does w (Action.sleep milliseconds) s (fun steps r s' => ∃ answer,
      steps = [.asked (.sleep milliseconds) answer] ∧ r = answer.mapError Fault.of ∧ s' = s) :=
    .sleep (fun answer => ⟨answer, rfl, rfl, rfl⟩)
  refine hsleep.bind ?_ ?_
  · rintro _ u _ ⟨answer, rfl, hu, rfl⟩
    cases answer <;> cases hu
    exact hok
  · rintro _ fault _ ⟨answer, rfl, hfault, rfl⟩
    cases answer <;> cases hfault
    exact herror _

theorem does_print (what : Shown) :
    Does w (Action.print what) s (fun steps r s' => ∃ answer,
      (∀ problem, answer = .error problem → w.Refuses what problem) ∧
      steps = [.showed what answer] ∧ r = answer.mapError Fault.of ∧ s' = s) :=
  fun j => ⟨_, j.steps_add w (.shown what), _, fun _ h => ⟨j.events, h⟩, rfl, rfl, rfl⟩

/-- Something for the console; if it is refused, this ends the action. -/
theorem Does.afterPrint {what : Shown} {next : Unit → Action σ β}
    (hok : Does w (next ()) s (fun rest => post (.showed what (.ok ()) :: rest)))
    (hrefused : ∀ problem, w.Refuses what problem →
      post [.showed what (.error problem)] (.error (.of problem)) s) :
    Does w (Action.print what >>= next) s post := by
  refine (does_print what).bind ?_ ?_
  · rintro _ u _ ⟨answer, -, rfl, hu, rfl⟩
    cases answer <;> cases hu
    exact hok
  · rintro _ fault _ ⟨answer, hanswer, rfl, hfault, rfl⟩
    cases answer <;> cases hfault
    exact hrefused _ (hanswer _ rfl)

/-- A call whose trouble is dealt with. -/
theorem Does.attemptCall {c : Call} {next : Except Fault c.Answer → Action σ β}
    (h : ∀ answer, w.Gives c answer → Does w (next (answer.mapError Fault.of)) s
      (fun rest => post (.asked c answer :: rest))) :
    Does w (Action.attempt (Action.call c) >>= next) s post := by
  refine (does_call c).attempt ?_
  rintro _ _ _ ⟨answer, hanswer, rfl, rfl, rfl⟩
  exact h answer hanswer

end Row

/-! ### Steps over a list -/

section Fold

variable {one : β → α → List Step → Except Fault β → Prop}

/-- What comes of going over a list, where `one` tells what comes of one place: the first trouble
ends it. -/
inductive Folds (one : β → α → List Step → Except Fault β → Prop) :
    β → List α → List Step → Except Fault β → Prop
  | nil (b : β) : Folds one b [] [] (.ok b)
  | cons {b b' : β} {a : α} {as : List α} {steps rest : List Step} {r : Except Fault β}
    (h : one b a steps (.ok b')) (hr : Folds one b' as rest r) :
    Folds one b (a :: as) (steps ++ rest) r
  | stop {b : β} {a : α} {as : List α} {steps : List Step} {fault : Fault}
    (h : one b a steps (.error fault)) : Folds one b (a :: as) steps (.error fault)

theorem Does.foldlM {act : β → α → Action σ β}
    (h : ∀ b a, Does w (act b a) s (fun steps r s' => one b a steps r ∧ s' = s)) (b : β)
    (as : List α) :
    Does w (as.foldlM act b) s (fun steps r s' => Folds one b as steps r ∧ s' = s) := by
  induction as generalizing b with
  | nil => exact .pure ⟨.nil b, rfl⟩
  | cons a as ih =>
    rw [List.foldlM_cons]
    refine (h b a).bind ?_ ?_
    · rintro steps b' _ ⟨hone, rfl⟩
      refine (ih b').mono ?_
      rintro rest r _ ⟨hfolds, rfl⟩
      exact ⟨.cons hone hfolds, rfl⟩
    · rintro steps fault _ ⟨hone, rfl⟩
      exact ⟨.stop hone, rfl⟩

theorem Folds.forall_mem {p : Step → Prop} {b : β} {as : List α} {ss : List Step}
    {r : Except Fault β} (h : Folds one b as ss r)
    (hone : ∀ {b a ss r}, one b a ss r → ∀ x ∈ ss, p x) : ∀ x ∈ ss, p x := by
  induction h with
  | nil b => simp
  | cons h _ ih => exact List.forall_mem_append.mpr ⟨hone h, ih⟩
  | stop h => exact hone h

/-- Where nothing has gone wrong, every place has come to something of its own, the steps are those
of all places in a row, and the result is gathered from all of them. -/
theorem Folds.exists_pairs {χ : Type} (holds : α → χ → Prop) (steps : α → χ → List Step)
    (next : β → α → χ → β) {b b' : β} {as : List α} {ss : List Step}
    (h : Folds one b as ss (.ok b'))
    (hone : ∀ {b a ss b'}, one b a ss (.ok b') →
      ∃ x, holds a x ∧ ss = steps a x ∧ b' = next b a x) :
    ∃ pairs : List (α × χ), pairs.map (·.1) = as ∧ (∀ p ∈ pairs, holds p.1 p.2) ∧
      ss = pairs.flatMap (fun p => steps p.1 p.2) ∧
      b' = pairs.foldl (fun b p => next b p.1 p.2) b := by
  generalize hr : Except.ok b' = r at h
  induction h with
  | nil b =>
    cases hr
    exact ⟨[], rfl, by simp, rfl, rfl⟩
  | @cons b b₁ a as ss rest r h _ ih =>
    obtain ⟨x, hx, rfl, rfl⟩ := hone h
    obtain ⟨pairs, hpairs, hholds, rfl, rfl⟩ := ih hr
    exact ⟨(a, x) :: pairs, by simp [hpairs], List.forall_mem_cons.mpr ⟨hx, hholds⟩, rfl, rfl⟩
  | stop h => cases hr

/-- Where no place can go wrong, nothing goes wrong. -/
theorem Folds.exists_ok {b : β} {as : List α} {ss : List Step} {r : Except Fault β}
    (h : Folds one b as ss r) (hone : ∀ {b a ss r}, one b a ss r → ∃ b', r = .ok b') :
    ∃ b', r = .ok b' := by
  induction h with
  | nil b => exact ⟨b, rfl⟩
  | cons _ _ ih => exact ih
  | stop h => exact hone h

/-- Trouble comes from one place, and those before it have been gone over. -/
theorem Folds.exists_stop {b : β} {as : List α} {ss : List Step} {fault : Fault}
    (h : Folds one b as ss (.error fault)) :
    ∃ before a after b' passed rest, as = before ++ a :: after ∧ ss = passed ++ rest ∧
      Folds one b before passed (.ok b') ∧ one b' a rest (.error fault) := by
  generalize hr : Except.error fault = r at h
  induction h with
  | nil b => cases hr
  | @cons b b₁ a as ss rest r h _ ih =>
    obtain ⟨before, a', after, b', passed, last, rfl, rfl, hbefore, hlast⟩ := ih hr
    exact ⟨a :: before, a', after, b', ss ++ passed, last, rfl, (List.append_assoc ..).symm,
      .cons h hbefore, hlast⟩
  | @stop b a as ss fault h =>
    cases hr
    exact ⟨[], a, as, b, [], ss, rfl, rfl, .nil b, h⟩

/-- Every step belongs to one of the places. -/
theorem Folds.exists_part {x : Step} {b : β} {as : List α} {ss : List Step} {r : Except Fault β}
    (h : Folds one b as ss r) (hx : x ∈ ss) :
    ∃ a ∈ as, ∃ b' part r', one b' a part r' ∧ x ∈ part ∧ part ⊆ ss := by
  induction h with
  | nil b => cases hx
  | @cons b b₁ a as part rest r hone _ ih =>
    rcases List.mem_append.mp hx with hx | hx
    · exact ⟨a, by simp, b, part, _, hone, hx, List.subset_append_left _ _⟩
    · obtain ⟨a', ha', b', part', r', hone', hx', hsub⟩ := ih hx
      exact ⟨a', List.mem_cons_of_mem _ ha', b', part', r', hone', hx',
        List.subset_append_of_subset_right _ hsub⟩
  | @stop b a as part fault hone => exact ⟨a, by simp, b, part, _, hone, hx, fun _ => id⟩

/-- Where nothing has gone wrong, every place has been gone over. -/
theorem Folds.exists_of_mem {b b' : β} {as : List α} {ss : List Step}
    (h : Folds one b as ss (.ok b')) {a : α} (ha : a ∈ as) :
    ∃ b₁ b₂ part, one b₁ a part (.ok b₂) ∧ part ⊆ ss := by
  generalize hr : Except.ok b' = r at h
  induction h with
  | nil b => cases ha
  | @cons b b₁ a' as part rest r hone _ ih =>
    rcases List.mem_cons.mp ha with rfl | ha
    · exact ⟨b, b₁, part, hone, List.subset_append_left _ _⟩
    · obtain ⟨b₂, b₃, part', hone', hsub⟩ := ih ha hr
      exact ⟨b₂, b₃, part', hone', List.subset_append_of_subset_right _ hsub⟩
  | stop hone => cases hr

end Fold

end Action

end Mooring
