import Mathlib.Order.Nat
import Mooring.Proofs.Agent.Reaper

/-! How long a reaper is waited for. The looks for its port and the attempts to register are told
apart by rests of fixed lengths, so the time up to the deadline bounds how many there are, whatever
the world answers and however long it takes; and with them the calls of a whole start. -/

namespace Mooring

/-! ### Efforts -/

def Step.isReload : Step → Bool
  | .asked (.client _ (.reloadContainer _)) _ => true
  | _ => false

def Step.isConnect : Step → Bool
  | .asked (.socket (.connect _ _)) _ => true
  | _ => false

def Step.isCall : Step → Bool
  | .asked _ _ => true
  | _ => false

/-- How often a container is looked at and a connection attempted, and how many calls there are. -/
structure Effort where
  reloads : Nat
  connects : Nat
  calls : Nat

namespace Effort

instance : Add Effort :=
  ⟨fun e f => ⟨e.reloads + f.reloads, e.connects + f.connects, e.calls + f.calls⟩⟩

instance : Preorder Effort where
  le e f := e.reloads ≤ f.reloads ∧ e.connects ≤ f.connects ∧ e.calls ≤ f.calls
  le_refl e := ⟨e.reloads.le_refl, e.connects.le_refl, e.calls.le_refl⟩
  le_trans _ _ _ h h' := ⟨h.1.trans h'.1, h.2.1.trans h'.2.1, h.2.2.trans h'.2.2⟩

variable {e f e' f' : Effort}

theorem le_def : e ≤ f ↔ e.reloads ≤ f.reloads ∧ e.connects ≤ f.connects ∧ e.calls ≤ f.calls :=
  Iff.rfl

theorem add_def :
    e + f = ⟨e.reloads + f.reloads, e.connects + f.connects, e.calls + f.calls⟩ := rfl

theorem add_le_add (h : e ≤ e') (h' : f ≤ f') : e + f ≤ e' + f' :=
  ⟨Nat.add_le_add h.1 h'.1, Nat.add_le_add h.2.1 h'.2.1, Nat.add_le_add h.2.2 h'.2.2⟩

theorem le_add_right (e f : Effort) : e ≤ e + f :=
  ⟨Nat.le_add_right _ _, Nat.le_add_right _ _, Nat.le_add_right _ _⟩

/-- The effort of a call of no other kind. -/
def call : Effort := ⟨0, 0, 1⟩

def none : Effort := ⟨0, 0, 0⟩

theorem none_le (e : Effort) : none ≤ e := ⟨Nat.zero_le _, Nat.zero_le _, Nat.zero_le _⟩

theorem none_add (e : Effort) : none + e = e := by simp [add_def, none]

end Effort

/-- The effort that steps have taken. -/
def effort (steps : List Step) : Effort where
  reloads := steps.countP Step.isReload
  connects := steps.countP Step.isConnect
  calls := steps.countP Step.isCall

theorem effort_append (steps more : List Step) :
    effort (steps ++ more) = effort steps + effort more := by
  simp [effort, Effort.add_def]

/-- What happens from one journal to a later one costs so much effort at the most, if every moment
between them is as `near` says. -/
def Journal.Costs (w : World) (near : Nat → Prop) (e : Effort) (j j' : Journal) : Prop :=
  ∃ steps, j'.steps w = j.steps w ++ steps ∧ j.clock ≤ j'.clock ∧
    ((∀ t, j.clock ≤ t → t ≤ j'.clock → near t) → effort steps ≤ e)

namespace Journal.Costs

variable {w : World} {near : Nat → Prop} {e f : Effort} {j j' j'' : Journal}

theorem refl : Costs w near e j j :=
  ⟨[], (List.append_nil _).symm, Nat.le_refl _, fun _ => e.none_le⟩

theorem mono (h : Costs w near e j j') (he : near j.clock → e ≤ f) : Costs w near f j j' := by
  obtain ⟨steps, hsteps, hclock, hle⟩ := h
  exact ⟨steps, hsteps, hclock, fun hnear =>
    (hle hnear).trans (he (hnear j.clock (Nat.le_refl _) hclock))⟩

theorem clock_le (h : Costs w near e j j') : j.clock ≤ j'.clock := by
  obtain ⟨_, -, hclock, -⟩ := h
  exact hclock

theorem trans (h : Costs w near e j j') (h' : Costs w near f j' j'') :
    Costs w near (e + f) j j'' := by
  obtain ⟨steps, hsteps, hclock, hle⟩ := h
  obtain ⟨more, hmore, hclock', hle'⟩ := h'
  have hfirst (hnear : ∀ t, j.clock ≤ t → t ≤ j''.clock → near t) : effort steps ≤ e :=
    hle fun t hfrom hto => hnear t hfrom (hto.trans hclock')
  have hsecond (hnear : ∀ t, j.clock ≤ t → t ≤ j''.clock → near t) : effort more ≤ f :=
    hle' fun t hfrom hto => hnear t (hclock.trans hfrom) hto
  refine ⟨steps ++ more, ?_, hclock.trans hclock', fun hnear => ?_⟩
  · rw [hmore, hsteps, List.append_assoc]
  · rw [effort_append]
    exact Effort.add_le_add (hfirst hnear) (hsecond hnear)

end Journal.Costs

/-! ### Actions of bounded effort -/

namespace Action

variable {σ τ α β : Type} {w : World} {near : Nat → Prop} {inv : σ → Prop} {e f : Effort}

/-- A run that keeps an invariant and takes so much effort at the most, if every moment of it is as
`near` says. -/
def Spends (w : World) (near : Nat → Prop) (inv : σ → Prop) (e : Effort) (act : Action σ α) (s : σ)
    (j : Journal) : Prop :=
  Journal.Costs w near e j (act w s j).2.2 ∧ inv (act w s j).2.1

/-- An action whose runs all take so much effort at the most. -/
def AtMost (w : World) (near : Nat → Prop) (inv : σ → Prop) (e : Effort)
    (act : Action σ α) : Prop :=
  ∀ s j, inv s → Spends w near inv e act s j

namespace AtMost

variable {act : Action σ α} {next : α → Action σ β}

theorem run (h : AtMost w near inv e act) {s s' : σ} {j j' : Journal} {r : Except Fault α}
    (hs : inv s) (hrun : act w s j = (r, s', j')) :
    Journal.Costs w near e j j' ∧ inv s' := by
  simpa only [Spends, hrun] using h s j hs

theorem mono (h : AtMost w near inv e act) (he : e ≤ f) : AtMost w near inv f act := by
  intro s j hs
  obtain ⟨hcosts, hinv⟩ := h s j hs
  exact ⟨hcosts.mono fun _ => he, hinv⟩

theorem pure (a : α) : AtMost w near inv e (Pure.pure a : Action σ α) :=
  fun _ _ hs => ⟨.refl, hs⟩

theorem fail (fault : Fault) : AtMost w near inv e (fail fault : Action σ α) :=
  fun _ _ hs => ⟨.refl, hs⟩

theorem ofExcept (result : Except Problem α) :
    AtMost w near inv e (ofExcept result : Action σ α) :=
  fun _ _ hs => ⟨.refl, hs⟩

theorem modify {f : σ → σ} (h : ∀ s, inv s → inv (f s)) :
    AtMost w near inv e (modify f : Action σ PUnit) :=
  fun s _ hs => ⟨.refl, h s hs⟩

theorem log {level : Level} {message : String} {fields : Record Value} :
    AtMost w near inv e (log level message fields : Action σ Unit) :=
  fun _ j hs => ⟨⟨_, j.steps_add w _, Nat.le_refl _, fun _ => e.none_le⟩, hs⟩

theorem call {c : Call} (h : ∀ answer, effort [.asked c answer] ≤ e) :
    AtMost w near inv e (call c : Action σ c.Answer) :=
  fun _ j hs => ⟨⟨_, j.steps_afterCall w c, Nat.le_add_right _ _, fun _ => h _⟩, hs⟩

theorem bind (h : AtMost w near inv e act) (hn : ∀ a, AtMost w near inv f (next a)) :
    AtMost w near inv (e + f) (act >>= next) := by
  intro s j hs
  rcases hrun : act w s j with ⟨fault | a, s', j'⟩
  · obtain ⟨hcosts, hinv⟩ := h.run hs hrun
    rw [Spends, run_bind_error hrun]
    exact ⟨hcosts.mono fun _ => e.le_add_right f, hinv⟩
  · obtain ⟨hcosts, hinv⟩ := h.run hs hrun
    obtain ⟨hmore, hinv'⟩ := hn a s' j' hinv
    rw [Spends, run_bind_ok hrun]
    exact ⟨hcosts.trans hmore, hinv'⟩

/-- Nothing counts of the first action. -/
theorem after (h : AtMost w near inv .none act) (hn : ∀ a, AtMost w near inv e (next a)) :
    AtMost w near inv e (act >>= next) :=
  (h.bind hn).mono e.none_add.le

/-- Nothing counts of what follows the first action. -/
theorem last (h : AtMost w near inv e act) (hn : ∀ a, AtMost w near inv .none (next a)) :
    AtMost w near inv e (act >>= next) :=
  (h.bind hn).mono (le_refl e)

theorem attempt (h : AtMost w near inv e act) : AtMost w near inv e (attempt act) :=
  fun s j hs => h s j hs

theorem ite {c : Prop} [Decidable c] {act act' : Action σ α} (h : AtMost w near inv e act)
    (h' : AtMost w near inv e act') : AtMost w near inv e (if c then act else act') := by
  split
  · exact h
  · exact h'

theorem afterGet {next : σ → Action σ β} (h : ∀ s, inv s → AtMost w near inv e (next s)) :
    AtMost w near inv e (get >>= next) :=
  fun s j hs => h s hs s j hs

theorem afterRead {next : World → Action σ β} (h : AtMost w near inv e (next w)) :
    AtMost w near inv e (read >>= next) := h

/-- An action that depends on when it begins, and one after it. -/
theorem sinceClock {act : Nat → Action σ α}
    (h : ∀ s j, inv s → Spends w near inv e (act j.clock) s j)
    (hn : ∀ a, AtMost w near inv f (next a)) :
    AtMost w near inv (e + f) (clock >>= fun now => act now >>= next) := by
  have hact : AtMost w near inv e (clock >>= act) := h
  exact hact.bind hn

theorem within {inner : τ → Prop} {put : τ → σ → σ} {part : τ} {act : Action τ α}
    (h : AtMost w near inner e act) (hpart : inner part)
    (hput : ∀ part' s, inner part' → inv s → inv (put part' s)) :
    AtMost w near inv e (within put part act) := by
  intro s j hs
  obtain ⟨hcosts, hinner⟩ := h part j hpart
  exact ⟨hcosts, hput _ s hinner hs⟩

end AtMost

/-- A wait that is over has taken its time. -/
theorem clock_le_of_sleep {n : Nat} {s s' : σ} {j j' : Journal}
    (h : sleep n w s j = (.ok (), s', j')) : j.clock + n ≤ j'.clock := by
  simp only [sleep, Action.call] at h
  split at h
  · next e =>
    simp only [Prod.mk.injEq] at e h
    obtain ⟨-, -, rfl⟩ := e
    obtain ⟨-, -, rfl⟩ := h
    simp only [Journal.clock_advance, Journal.clock_add]
    omega
  · cases h

theorem AtMost.sleep (n : Nat) : AtMost w near inv .call (sleep n : Action σ Unit) := by
  intro s j hs
  have hsteps := j.steps_afterCall w (.sleep n)
  rw [Spends, Action.sleep, run_call]
  cases (w.answer j.events (.sleep n)).result with
  | ok u =>
    exact ⟨⟨_, hsteps, (Nat.le_add_right _ _).trans (Nat.le_add_right _ _), fun _ => le_refl _⟩, hs⟩
  | error problem =>
    exact ⟨⟨_, hsteps, Nat.le_add_right _ _, fun _ => le_refl _⟩, hs⟩

end Action

/-! ### Parts of a start -/

open Mooring.Action

variable {σ : Type} {w : World} {near : Nat → Prop} {inv : σ → Prop}

theorem ensureImage_atMost (k : Client) (image : String) :
    AtMost w near inv (.call + .call) (ensureImage k image) := by
  refine .bind (.call (fun _ => le_refl _)) (fun copies => ?_)
  split
  · refine .after .log (fun _ => .last (.attempt (.call (fun _ => le_refl _))) (fun pulled => ?_))
    cases pulled with
    | ok u => exact .log
    | error fault => exact .ite (.after .log (fun _ => .fail _)) (.fail _)
  · exact .pure _

namespace Reaper

theorem lookForPort_atMost (k : Client) (id : ResourceId) :
    AtMost w near inv ⟨1, 0, 2⟩ (lookForPort k id : Action σ (Option Int)) := by
  refine .mono (e := ⟨1, 0, 1⟩ + .call) ?_ (le_refl _)
  refine .bind (.call (fun _ => le_refl _)) (fun _ => ?_)
  exact .last (.call (fun _ => le_refl _)) (fun _ => .ofExcept _)

theorem introduce_atMost (socket : Socket) (line : String) :
    AtMost w near inv ⟨0, 0, 3⟩ (introduce socket line : Action σ (Option String)) := by
  refine .mono (e := .call + (.call + .call)) ?_ (le_refl _)
  refine .bind (.call (fun _ => le_refl _)) (fun _ => ?_)
  refine .bind (.call (fun _ => le_refl _)) (fun answer => .ite ?_ (.pure _))
  exact .last (.call (fun _ => le_refl _)) (fun _ => .pure _)

theorem registerOnce_atMost (host : String) (port : Int) (line : String) :
    AtMost w near inv ⟨0, 1, 5⟩ (registerOnce host port line : Action σ Registration) := by
  have hdrop (socket : Socket) (reason : String) :
      AtMost w near inv .call
        (do call (.socket (.close socket)); return Registration.refused reason : Action σ _) :=
    .last (.call (fun _ => le_refl _)) (fun _ => .pure _)
  refine .mono (e := ⟨0, 1, 1⟩ + (⟨0, 0, 3⟩ + .call)) ?_ (le_refl _)
  refine .bind (.attempt (.call (fun _ => le_refl _))) (fun connected => ?_)
  cases connected with
  | error fault => exact .ite (.pure _) (.fail _)
  | ok socket =>
    refine .bind (.attempt (introduce_atMost socket line)) (fun introduced => ?_)
    rcases introduced with fault | _ | reason
    · exact .ite (hdrop socket _) (.fail _)
    · exact .pure _
    · exact hdrop socket reason

/-! ### Loops -/

/-- What there is to do in so many milliseconds while the port is waited for. -/
def waiting (T : Nat) : Effort := ⟨(T + 99) / 100 + 1, 0, 3 * ((T + 99) / 100 + 1)⟩

/-- What there is to do in so many milliseconds of attempts to register. -/
def registering (T : Nat) : Effort := ⟨0, (T + 499) / 500, 6 * ((T + 499) / 500)⟩

theorem look_le_waiting (T : Nat) : ⟨1, 0, 2⟩ + .call ≤ waiting T := by
  simp only [waiting, Effort.le_def, Effort.add_def, Effort.call]
  omega

/-- A look with the rest after it leaves at least a tenth of a second less. -/
theorem look_add_waiting {T left : Nat} (hpos : 0 < T) (h : left ≤ T - 100) :
    ⟨1, 0, 2⟩ + .call + waiting left ≤ waiting T := by
  simp only [waiting, Effort.le_def, Effort.add_def, Effort.call]
  omega

theorem try_le_registering {T : Nat} (hpos : 0 < T) : ⟨0, 1, 5⟩ + .call ≤ registering T := by
  simp only [registering, Effort.le_def, Effort.add_def, Effort.call]
  omega

/-- An attempt with the rest after it leaves at least half a second less. -/
theorem try_add_registering {T left : Nat} (hpos : 0 < T) (h : left ≤ T - 500) :
    ⟨0, 1, 5⟩ + .call + registering left ≤ registering T := by
  simp only [registering, Effort.le_def, Effort.add_def, Effort.call]
  omega

theorem waiting_mono {T T' : Nat} (h : T ≤ T') : waiting T ≤ waiting T' := by
  simp only [waiting, Effort.le_def]
  omega

theorem registering_mono {T T' : Nat} (h : T ≤ T') : registering T ≤ registering T' := by
  simp only [registering, Effort.le_def]
  omega

/-- A wait for the port takes what fits into the time left. -/
theorem waitForPort_spends (k : Client) (id : ResourceId) (deadline : Nat) (s : σ) (hs : inv s)
    (j : Journal) :
    Spends w near inv (waiting (deadline - j.clock)) (waitForPort k id deadline) s j := by
  have looks : AtMost w near inv ⟨1, 0, 2⟩ (lookForPort k id) := lookForPort_atMost k id
  have rests : AtMost w near inv .call (sleep 100) := .sleep 100
  have hlook (T : Nat) : ⟨1, 0, 2⟩ ≤ waiting T :=
    (Effort.le_add_right _ _).trans (look_le_waiting T)
  unfold Spends
  -- a round that goes on leaves less time for the rounds after it
  fun_induction waitForPort k id deadline w s j with
  | case1 s j fault s' j' looked =>
    obtain ⟨hcosts, hinv⟩ := looks.run hs looked
    exact ⟨hcosts.mono fun _ => hlook _, hinv⟩
  | case2 s j port s' j' looked =>
    obtain ⟨hcosts, hinv⟩ := looks.run hs looked
    exact ⟨hcosts.mono fun _ => hlook _, hinv⟩
  | case3 s j seen later looked late =>
    obtain ⟨hcosts, hinv⟩ := looks.run hs looked
    exact ⟨hcosts.mono fun _ => hlook _, hinv⟩
  | case4 s j seen later looked late fault s' j' slept =>
    obtain ⟨hcosts, hinv⟩ := looks.run hs looked
    obtain ⟨hrest, hinv'⟩ := rests.run hinv slept
    exact ⟨(hcosts.trans hrest).mono fun _ => look_le_waiting _, hinv'⟩
  | case5 s j seen later looked late rested now slept ih =>
    obtain ⟨hcosts, hinv⟩ := looks.run hs looked
    obtain ⟨hrest, hinv'⟩ := rests.run hinv slept
    obtain ⟨hmore, hinv''⟩ := ih hinv'
    have hlater : j.clock ≤ later.clock := hcosts.clock_le
    have hnow : later.clock + 100 ≤ now.clock := clock_le_of_sleep slept
    have hround : ⟨1, 0, 2⟩ + .call + waiting (deadline - now.clock) ≤
        waiting (deadline - j.clock) := look_add_waiting (by omega) (by omega)
    exact ⟨((hcosts.trans hrest).trans hmore).mono fun _ => hround, hinv''⟩

/-- The attempts to register take what fits into the time left. -/
theorem register_spends (host : String) (port : Int) (line : String) (deadline : Nat)
    (reason : Option String) (s : σ) (hs : inv s) (j : Journal) :
    Spends w near inv (registering (deadline - j.clock))
      (register host port line deadline reason) s j := by
  have tries : AtMost w near inv ⟨0, 1, 5⟩ (registerOnce host port line) :=
    registerOnce_atMost host port line
  have rests : AtMost w near inv .call (sleep 500) := .sleep 500
  have htry {T : Nat} (hpos : 0 < T) : ⟨0, 1, 5⟩ ≤ registering T :=
    (Effort.le_add_right _ _).trans (try_le_registering hpos)
  unfold Spends
  fun_induction register host port line deadline reason w s j with
  | case1 reason s j late => exact ⟨.refl, hs⟩
  | case2 reason s j early fault s' j' tried =>
    obtain ⟨hcosts, hinv⟩ := tries.run hs tried
    exact ⟨hcosts.mono fun _ => htry (by omega), hinv⟩
  | case3 reason s j early socket s' j' tried =>
    obtain ⟨hcosts, hinv⟩ := tries.run hs tried
    exact ⟨hcosts.mono fun _ => htry (by omega), hinv⟩
  | case4 reason s j early refusal seen later tried fault s' j' slept =>
    obtain ⟨hcosts, hinv⟩ := tries.run hs tried
    obtain ⟨hrest, hinv'⟩ := rests.run hinv slept
    exact ⟨(hcosts.trans hrest).mono fun _ => try_le_registering (by omega), hinv'⟩
  | case5 reason s j early refusal seen later tried rested now slept ih =>
    obtain ⟨hcosts, hinv⟩ := tries.run hs tried
    obtain ⟨hrest, hinv'⟩ := rests.run hinv slept
    obtain ⟨hmore, hinv''⟩ := ih hinv'
    have hlater : j.clock ≤ later.clock := hcosts.clock_le
    have hnow : later.clock + 500 ≤ now.clock := clock_le_of_sleep slept
    have hround : ⟨0, 1, 5⟩ + .call + registering (deadline - now.clock) ≤
        registering (deadline - j.clock) := try_add_registering (by omega) (by omega)
    exact ⟨((hcosts.trans hrest).trans hmore).mono fun _ => hround, hinv''⟩

/-! ### Starts -/

section Start

variable {p : Binary64} {T : Nat}

/-- Patience that begins at a moment ends within so many milliseconds. -/
def EndsWithin (p : Binary64) (T t : Nat) : Prop := Deadline.after t p ≤ t + T

def HasPatience (p : Binary64) (r : Reaper) : Prop := r.patience = p

theorem connect_atMost (id : ResourceId) :
    AtMost w (EndsWithin p T) (HasPatience p) (waiting T + registering T) (connect id) := by
  have hwait (k : Client) (s : Reaper) (j : Journal) (hs : HasPatience p s) :
      Spends w (EndsWithin p T) (HasPatience p) (waiting T)
        (waitForPort k id (Deadline.after j.clock p)) s j := by
    obtain ⟨hcosts, hinv⟩ : Spends w (EndsWithin p T) (HasPatience p) _ _ s j :=
      waitForPort_spends k id (Deadline.after j.clock p) s hs j
    refine ⟨hcosts.mono fun hends => waiting_mono ?_, hinv⟩
    exact Nat.sub_le_iff_le_add'.mpr hends
  have hregister (host : String) (port : Int) (line : String) (s : Reaper) (j : Journal)
      (hs : HasPatience p s) : Spends w (EndsWithin p T) (HasPatience p) (registering T)
        (register host port line (Deadline.after j.clock p) none) s j := by
    obtain ⟨hcosts, hinv⟩ : Spends w (EndsWithin p T) (HasPatience p) _ _ s j :=
      register_spends host port line (Deadline.after j.clock p) none s hs j
    refine ⟨hcosts.mono fun hends => registering_mono ?_, hinv⟩
    exact Nat.sub_le_iff_le_add'.mpr hends
  refine .afterGet (fun r hr => ?_)
  rw [show r.patience = p from hr]
  refine .sinceClock (hwait r.client) (fun port => .afterRead ?_)
  refine .mono (e := registering T + .none) ?_ (le_refl _)
  refine .sinceClock (hregister r.host port _) (fun socket => ?_)
  exact .after (.modify fun _ hs => hs) (fun _ => .pure _)

theorem kill_atMost {inv : Reaper → Prop} : AtMost w near inv .call kill := by
  refine .afterGet (fun r _ => ?_)
  cases r.container with
  | none => exact .pure _
  | some id =>
    refine .last (.attempt (.call (fun _ => le_refl _))) (fun killed => ?_)
    cases killed with
    | ok u => exact .pure _
    | error fault => exact .ite .log (.fail _)

/-- What a start may take whose waits have so many milliseconds each. -/
def starting (T : Nat) : Effort :=
  ⟨(T + 99) / 100 + 1, (T + 499) / 500, 4 + 3 * ((T + 99) / 100 + 1) + 6 * ((T + 499) / 500)⟩

theorem start_le_starting (T : Nat) :
    (.call + .call + .call) + (waiting T + registering T + .call) ≤ starting T := by
  simp only [waiting, registering, starting, Effort.le_def, Effort.add_def, Effort.call]
  omega

theorem start_atMost :
    AtMost w (EndsWithin p T) (HasPatience p) (starting T) start := by
  have hcontainer (r : Reaper) : AtMost w (EndsWithin p T) (HasPatience p)
      (.call + .call + .call) (do
        ensureImage r.client r.settings.reaperImage
        onClient r.client (.runContainer (Reaper.request r.settings w.session))) :=
    .bind (ensureImage_atMost _ _) (fun _ => .call (fun _ => le_refl _))
  refine .mono ?_ (start_le_starting T)
  refine .afterGet (fun r hr => ?_)
  split
  · exact .after .log (fun _ => .pure _)
  · refine .afterRead (.bind (.attempt (hcontainer r)) (fun created => ?_))
    cases created with
    | error fault => exact .ite (.fail _) (.fail _)
    | ok id =>
      refine .after (.modify fun _ hs => hs) (fun _ => ?_)
      refine .bind (.attempt (connect_atMost id)) (fun connected => ?_)
      cases connected with
      | ok port => exact .log
      | error fault => exact .ite (kill_atMost.last fun _ => .fail _) (.fail _)

end Start

/-! ### The least -/

/-- A wait for the port looks at least once, however little time there is. -/
theorem waitForPort_looks (k : Client) (id : ResourceId) (deadline : Nat) (s : σ) :
    Does w (waitForPort k id deadline) s (fun steps _ _ => 1 ≤ steps.countP Step.isReload) := by
  have looks (s : σ) :
      Does w (lookForPort k id) s (fun steps _ _ => 1 ≤ steps.countP Step.isReload) := by
    refine .ask (fun _ _ => .ask (fun _ _ => .ofExcept ?_) ?_) ?_
    all_goals simp [Step.isReload]
  have further {steps : List Step} (h : 1 ≤ steps.countP Step.isReload) (rest : List Step) :
      1 ≤ (steps ++ rest).countP Step.isReload :=
    h.trans (List.sublist_append_left steps rest).countP_le
  refine (rounds_waitForPort k id deadline).does
    (fun _ steps _ _ => 1 ≤ steps.countP Step.isReload) (fun _ s => (looks s).bind ?_ ?_) () s
  · intro steps found s' hlook
    cases found with
    | some n => exact .pure (.ends (further hlook _))
    | none =>
      refine .afterClock (fun now => ?_)
      split
      · exact .fail (.fails (further hlook _))
      · refine .afterSleep (.pure (.next (fun rest _ _ _ => ?_)))
          (fun _ => .fails (further hlook _))
        exact further (further hlook _) rest
  · exact fun steps fault s' hlook => .fails hlook

end Reaper

namespace Agent

/-- A start of an agent with a reaper. -/
theorem ensureStarted_atMost {p : Binary64} {T : Nat} :
    AtMost w (Reaper.EndsWithin p T)
      (fun agent => ∃ r, agent.cleaner = .reaper r ∧ Reaper.HasPatience p r) (Reaper.starting T)
      ensureStarted := by
  refine .afterGet (fun agent _ => ?_)
  split
  · exact .pure _
  · refine .after .log (fun _ => .last (.afterGet ?_) (fun _ => .modify fun _ hs => hs))
    rintro ⟨_, started⟩ ⟨r, rfl, hr⟩
    exact .within Reaper.start_atMost hr (fun r' _ hr' _ => ⟨r', rfl, hr'⟩)

/-- Waits of so many milliseconds end after so many looks and attempts, whatever the world answers
and however long it takes. There may be one look more than tenths of a second are begun, as the time
is looked at after each, but no more attempts than halves, as it is looked at before. So a start of
a reaper ends after so many calls, if the clock and the patience are read so exactly that a deadline
is never further off. -/
theorem patience_of_start (T : Nat) (w : World) :
    (∀ (σ : Type) (k : Client) (id : ResourceId) (s : σ) (j : Journal), ∃ r s' j' steps,
      Reaper.waitForPort k id (j.clock + T) w s j = (r, s', j') ∧
        j'.steps w = j.steps w ++ steps ∧ 1 ≤ steps.countP Step.isReload ∧
        steps.countP Step.isReload ≤ (T + 99) / 100 + 1) ∧
    (∀ (σ : Type) (host : String) (port : Int) (line : String) (reason : Option String) (s : σ)
      (j : Journal), ∃ r s' j' steps,
      Reaper.register host port line (j.clock + T) reason w s j = (r, s', j') ∧
        j'.steps w = j.steps w ++ steps ∧ steps.countP Step.isConnect ≤ (T + 499) / 500) ∧
    ∀ (reaper : Reaper) (started : Bool) (j : Journal), ∃ r agent j' steps,
      ensureStarted w { cleaner := .reaper reaper, started } j = (r, agent, j') ∧
        j'.steps w = j.steps w ++ steps ∧
        ((∀ t, j.clock ≤ t → t ≤ j'.clock → Deadline.after t reaper.patience ≤ t + T) →
          steps.countP Step.isReload ≤ (T + 99) / 100 + 1 ∧
          steps.countP Step.isConnect ≤ (T + 499) / 500 ∧
          steps.countP Step.isCall ≤ 4 + 3 * ((T + 99) / 100 + 1) + 6 * ((T + 499) / 500)) := by
  refine ⟨fun σ k id s j => ?_, fun σ host port line reason s j => ?_, fun reaper started j => ?_⟩
  · obtain ⟨⟨steps, hsteps, -, hle⟩, -⟩ : Spends w (fun _ => True) (fun _ => True) _ _ s j :=
      Reaper.waitForPort_spends k id (j.clock + T) s trivial j
    obtain ⟨looks, hlooks, hleast⟩ := Reaper.waitForPort_looks k id (j.clock + T) s j
    obtain rfl : looks = steps := List.append_cancel_left (hlooks.symm.trans hsteps)
    have hmost := (hle fun _ _ _ => trivial).1
    rw [Nat.add_sub_cancel_left] at hmost
    exact ⟨_, _, _, looks, rfl, hsteps, hleast, hmost⟩
  · obtain ⟨⟨steps, hsteps, -, hle⟩, -⟩ : Spends w (fun _ => True) (fun _ => True) _ _ s j :=
      Reaper.register_spends host port line (j.clock + T) reason s trivial j
    have hmost := (hle fun _ _ _ => trivial).2.1
    rw [Nat.add_sub_cancel_left] at hmost
    exact ⟨_, _, _, steps, rfl, hsteps, hmost⟩
  · obtain ⟨⟨steps, hsteps, -, hle⟩, -⟩ :=
      ensureStarted_atMost (w := w) (T := T) ⟨.reaper reaper, started⟩ j ⟨reaper, rfl, rfl⟩
    exact ⟨_, _, _, steps, rfl, hsteps, hle⟩

/-- A quarter of a second is over after 251 milliseconds, which may be one too many for the rounding
of the clock, and the port of the first container is looked for as often as that allows. -/
theorem patience_hasty : ∃ r agent j' steps,
    ensureStarted World.slow hasty {} = (r, agent, j') ∧ j'.steps World.slow = steps ∧
    (∀ t ≤ j'.clock, Deadline.after t ⟨false, 1, -2⟩ ≤ t + 251) ∧
    steps.countP Step.isReload ≤ 4 ∧ steps.countP Step.isConnect ≤ 1 ∧
    steps.countP Step.isCall ≤ 22 := by
  obtain ⟨-, -, hstarts⟩ := patience_of_start 251 World.slow
  obtain ⟨r, agent, j', steps, hrun, hsteps, hle⟩ := hstarts
    { client := "client", settings := .plain, host := "localhost", patience := ⟨false, 1, -2⟩ }
    false {}
  have hclock : (ensureStarted World.slow hasty {}).2.2.clock ≤ 300 := by decide +kernel
  have hrun : ensureStarted World.slow hasty {} = (r, agent, j') := hrun
  rw [hrun] at hclock
  have hnear : ∀ t ≤ 300, Deadline.after t ⟨false, 1, -2⟩ ≤ t + 251 := by decide +kernel
  have hends (t : Nat) (ht : t ≤ j'.clock) : Deadline.after t ⟨false, 1, -2⟩ ≤ t + 251 :=
    hnear t (ht.trans hclock)
  exact ⟨r, agent, j', steps, hrun, hsteps, hends, hle fun t _ => hends t⟩

/-- The look that finds the time to be up is the one over; an attempt then is not begun. -/
example :
    (effort ((Reaper.waitForPort "client" "first" 200 World.slow () {}).2.2.steps
      World.slow)).reloads = 3 ∧
    (effort ((Reaper.register "localhost" 49153 "" 1000 none (World.plain fun _ => none) ()
      {}).2.2.steps (World.plain fun _ => none))).connects = 2 := by
  decide +kernel

end Agent

end Mooring
