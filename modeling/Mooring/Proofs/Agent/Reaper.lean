import Mooring.Agent
import Mooring.Proofs.Agent.Rounds
import Mooring.Proofs.Plain

/-! The reaper step by step. Each relation lists the courses that one part of the start can take:
which calls are made, how the world has answered them, and what the part comes to. -/

namespace Mooring

open Mooring.Action

variable {σ : Type} {w : World}

/-! ### The image -/

/-- A step on the way to an image. -/
inductive Prepares (k : Client) : Step → Prop
  | find (name : String) (answer : Except Problem (List ResourceId)) :
    Prepares k (.asked (.client k (.imagesNamed name)) answer)
  | pull (repository tag : String) (answer : Except Problem Unit) :
    Prepares k (.asked (.client k (.pullImage repository tag)) answer)
  | line (level : Level) (message : String) (fields : Record Value) :
    Prepares k (.wrote level message fields)

theorem ensureImage_does (k : Client) (image : String) (s : σ) :
    Does w (ensureImage k image) s (fun steps _ s' => (∀ x ∈ steps, Prepares k x) ∧ s' = s) := by
  refine .ask (fun copies _ => ?_) (fun problem _ => ?_)
  · split
    · refine .afterLog (.attemptCall (fun answer _ => ?_))
      cases answer with
      | ok u =>
        refine .log ⟨?_, rfl⟩
        simp [Prepares.find, Prepares.pull, Prepares.line]
      | error problem =>
        show Does w (if (Fault.of problem).problem.isDaemonTrouble then _ else _) s _
        split
        · refine .afterLog (.fail ⟨?_, rfl⟩)
          simp [Prepares.find, Prepares.pull, Prepares.line]
        · refine .fail ⟨?_, rfl⟩
          simp [Prepares.find, Prepares.pull, Prepares.line]
    · refine .pure ⟨?_, rfl⟩
      simp [Prepares.find]
  · refine ⟨?_, rfl⟩
    simp [Prepares.find]

namespace Reaper

/-! ### The published port -/

/-- A container's ports lead to the reaper by a port of the host: the one that the first binding of
the reaper's port writes. -/
def Publishes (ports : Value) (n : Int) : Prop :=
  ∃ entries binding more hostPort, ports = .object entries ∧
    Record.get? entries port = some (.list (.object binding :: more)) ∧
    Record.get? binding "HostPort" = some hostPort ∧ hostPort.toInt = .ok n

theorem eq_object_of_entryOf {key : String} {v value : Value} (h : entryOf key v = .ok value) :
    ∃ entries, v = .object entries ∧ Record.get? entries key = some value := by
  cases v with
  | object entries =>
    simp only [entryOf] at h
    split at h
    · next found hfound =>
      cases h
      exact ⟨entries, rfl, hfound⟩
    · cases h
  | _ => cases h

theorem eq_list_of_firstItem {v : Value} {entries : List (String × Value)}
    (h : firstItem v = .ok (.object entries)) : ∃ more, v = .list (.object entries :: more) := by
  cases v with
  | list items =>
    cases items with
    | nil => cases h
    | cons item more =>
      cases h
      exact ⟨more, rfl⟩
  | _ => cases h

theorem eq_object_of_bindings {ports : Value} {items : List Value}
    (h : bindings ports = .ok (.list items)) :
    ∃ entries, ports = .object entries ∧ Record.get? entries port = some (.list items) := by
  cases ports with
  | object entries =>
    simp only [bindings, Value.entry, Except.ok.injEq] at h
    refine ⟨entries, rfl, ?_⟩
    cases hport : Record.get? entries port with
    | none => rw [hport] at h; cases h
    | some bound =>
      rw [hport] at h
      cases h
      rfl
  | _ =>
    simp only [bindings] at h
    split at h <;> cases h

theorem publishes_of_published {ports : Value} {n : Int}
    (h : publishedPort? ports = .ok (some n)) : Publishes ports n := by
  obtain ⟨bound, hbound, h⟩ := exists_of_bind_eq_ok h
  split at h
  · cases h
  · obtain ⟨binding, hbinding, h⟩ := exists_of_bind_eq_ok h
    obtain ⟨hostPort, hhostPort, h⟩ := exists_of_bind_eq_ok h
    obtain ⟨number, hnumber, h⟩ := exists_of_bind_eq_ok h
    cases h
    obtain ⟨entries, rfl, hentry⟩ := eq_object_of_entryOf (eq_ok_of_mapError hhostPort)
    obtain ⟨more, rfl⟩ := eq_list_of_firstItem (eq_ok_of_mapError hbinding)
    obtain ⟨table, rfl, htable⟩ := eq_object_of_bindings (eq_ok_of_mapError hbound)
    exact ⟨table, entries, more, hostPort, rfl, htable, hentry, hnumber⟩

/-- A step while the port is waited for. -/
inductive Looks (k : Client) (id : ResourceId) : Step → Prop
  | reload (answer : Except Problem Unit) :
    Looks k id (.asked (.client k (.reloadContainer id)) answer)
  | ports (answer : Except Problem Value) :
    Looks k id (.asked (.client k (.containerPorts id)) answer)
  | rest (milliseconds : Nat) (answer : Except Problem Unit) :
    Looks k id (.asked (.sleep milliseconds) answer)

/-- The wait for the port: looks in vain, up to one that finds it or to some trouble. -/
inductive Waits (k : Client) (id : ResourceId) : List Step → Except Fault Int → Prop
  | found {ports : Value} {n : Int} (h : Publishes ports n) :
    Waits k id [.asked (.client k (.reloadContainer id)) (.ok ()),
      .asked (.client k (.containerPorts id)) (.ok ports)] (.ok n)
  | failed {steps : List Step} (h : ∀ x ∈ steps, Looks k id x) (fault : Fault) :
    Waits k id steps (.error fault)
  | again {steps rest : List Step} {r : Except Fault Int} (h : ∀ x ∈ steps, Looks k id x)
    (hr : Waits k id rest r) : Waits k id (steps ++ rest) r

theorem lookForPort_does (k : Client) (id : ResourceId) (s : σ) :
    Does w (lookForPort k id) s (fun steps r s' => (∀ x ∈ steps, Looks k id x) ∧ s' = s ∧
      ∀ n, r = .ok (some n) → Waits k id steps (.ok n)) := by
  refine .ask (fun _ _ => .ask (fun ports _ => .ofExcept ⟨?_, rfl, ?_⟩) ?_) ?_
  · simp [Looks.reload, Looks.ports]
  · intro n hn
    cases hp : publishedPort? ports with
    | error problem => rw [hp] at hn; cases hn
    | ok found =>
      rw [hp] at hn
      cases hn
      exact .found (publishes_of_published hp)
  · intro problem _
    refine ⟨?_, rfl, fun n hn => by cases hn⟩
    simp [Looks.reload, Looks.ports]
  · intro problem _
    refine ⟨?_, rfl, fun n hn => by cases hn⟩
    simp [Looks.reload]

theorem waitForPort_does (k : Client) (id : ResourceId) (deadline : Nat) (s : σ) :
    Does w (waitForPort k id deadline) s (fun steps r s' => Waits k id steps r ∧ s' = s) := by
  refine (rounds_waitForPort k id deadline).does
    (fun s steps r s' => Waits k id steps r ∧ s' = s) (fun _ s => ?_) () s
  refine (lookForPort_does k id s).bind ?_ ?_
  · rintro steps found _ ⟨hlooks, rfl, hfound⟩
    cases found with
    | some n => exact .pure (.ends ⟨by simpa using hfound n rfl, rfl⟩)
    | none =>
      have hrest (answer : Except Problem Unit) :
          ∀ x ∈ steps ++ [.asked (.sleep 100) answer], Looks k id x :=
        List.forall_mem_append.mpr ⟨hlooks, List.forall_mem_singleton.mpr (.rest _ _)⟩
      refine .afterClock (fun now => ?_)
      split
      · exact .fail (.fails ⟨.failed (by simpa using hlooks) _, rfl⟩)
      · refine .afterSleep (.pure (.next ?_)) (fun problem => .fails ⟨.failed (hrest _) _, rfl⟩)
        rintro rest r _ ⟨hwaits, rfl⟩
        exact ⟨.again (hrest _) hwaits, rfl⟩
  · rintro steps fault _ ⟨hlooks, rfl, -⟩
    exact .fails ⟨.failed hlooks fault, rfl⟩

/-! ### The acknowledgement -/

/-- A step on a socket between its connection and its end. -/
inductive Talks (socket : Socket) : Step → Prop
  | send (line : String) (answer : Except Problem Unit) :
    Talks socket (.asked (.socket (.send socket line)) answer)
  | receive (size : Nat) (answer : Except Problem (List UInt8)) :
    Talks socket (.asked (.socket (.receive socket size)) answer)
  | clear (answer : Except Problem Unit) :
    Talks socket (.asked (.socket (.clearTimeout socket)) answer)

/-- A socket is told the line, answers with the acknowledgement and may then wait without limit. -/
def acknowledging (socket : Socket) (line : String) (answer : List UInt8) : List Step :=
  [.asked (.socket (.send socket line)) (.ok ()),
   .asked (.socket (.receive socket 16)) (.ok answer),
   .asked (.socket (.clearTimeout socket)) (.ok ())]

/-- What comes of the talk on a socket. -/
inductive Introduces (w : World) (socket : Socket) (line : String) :
    List Step → Except Fault (Option String) → Prop
  | acknowledged {answer : List UInt8} (h : Text.trimBytes answer = acknowledgement) :
    Introduces w socket line (acknowledging socket line answer) (.ok none)
  | refused {steps : List Step} (h : ∀ x ∈ steps, Talks socket x) (reason : String) :
    Introduces w socket line steps (.ok (some reason))
  | failed {steps : List Step} (h : ∀ x ∈ steps, Talks socket x) {c : SocketCall}
    {problem : Problem} (hc : w.Gives (.socket c) (.error problem)) :
    Introduces w socket line steps (.error (.of problem))

theorem introduce_does (socket : Socket) (line : String) (s : σ) :
    Does w (introduce socket line) s (fun steps r s' =>
      Introduces w socket line steps r ∧ s' = s) := by
  refine .ask (fun _ _ => .ask (fun answer _ => ?_) ?_) ?_
  · split
    · next h =>
      refine .ask (fun _ _ => .pure ⟨.acknowledged h, rfl⟩) (fun problem hp => ⟨.failed ?_ hp, rfl⟩)
      simp [Talks.send, Talks.receive, Talks.clear]
    · refine .pure ⟨.refused ?_ _, rfl⟩
      simp [Talks.send, Talks.receive]
  · intro problem hp
    refine ⟨.failed ?_ hp, rfl⟩
    simp [Talks.send, Talks.receive]
  · intro problem hp
    refine ⟨.failed ?_ hp, rfl⟩
    simp [Talks.send]

/-- What comes of one attempt to register. A socket is left open when it is acknowledged, and when
trouble on it is none of the network's. -/
inductive Tries (w : World) (host : String) (n : Int) (line : String) :
    List Step → Except Fault Registration → Prop
  | unreached (problem : Problem) (reason : String) :
    Tries w host n line [.asked (.socket (.connect host n)) (.error problem)]
      (.ok (.refused reason))
  | barred (problem : Problem) (fault : Fault) :
    Tries w host n line [.asked (.socket (.connect host n)) (.error problem)] (.error fault)
  | acknowledged {socket : Socket} {answer : List UInt8}
    (h : Text.trimBytes answer = acknowledgement) :
    Tries w host n line
      (.asked (.socket (.connect host n)) (.ok socket) :: acknowledging socket line answer)
      (.ok (.acknowledged socket))
  | dropped {socket : Socket} {steps : List Step} (h : ∀ x ∈ steps, Talks socket x)
    (reason : String) :
    Tries w host n line
      (.asked (.socket (.connect host n)) (.ok socket) ::
        (steps ++ [.asked (.socket (.close socket)) (.ok ())]))
      (.ok (.refused reason))
  | undropped {socket : Socket} {steps : List Step} (h : ∀ x ∈ steps, Talks socket x)
    (problem : Problem) :
    Tries w host n line
      (.asked (.socket (.connect host n)) (.ok socket) ::
        (steps ++ [.asked (.socket (.close socket)) (.error problem)]))
      (.error (.of problem))
  | abandoned {socket : Socket} {steps : List Step} (h : ∀ x ∈ steps, Talks socket x)
    {c : SocketCall} {problem : Problem} (hc : w.Gives (.socket c) (.error problem))
    (hp : problem.isOsTrouble = false) :
    Tries w host n line (.asked (.socket (.connect host n)) (.ok socket) :: steps)
      (.error (.of problem))

theorem registerOnce_does (host : String) (n : Int) (line : String) (s : σ) :
    Does w (registerOnce host n line) s
      (fun steps r s' => Tries w host n line steps r ∧ s' = s) := by
  refine .attemptCall (fun connected _ => ?_)
  cases connected with
  | error problem =>
    show Does w (if (Fault.of problem).problem.isOsTrouble then _ else _) s _
    split
    · exact .pure ⟨.unreached problem _, rfl⟩
    · exact .fail ⟨.barred problem _, rfl⟩
  | ok socket =>
    have drops {steps : List Step} (h : ∀ x ∈ steps, Talks socket x) (reason : String) :
        Does w (do call (.socket (.close socket)); return Registration.refused reason) s
          (fun rest r s' => Tries w host n line
            (.asked (.socket (.connect host n)) (.ok socket) :: (steps ++ rest)) r ∧ s' = s) :=
      .ask (fun _ _ => .pure ⟨.dropped h reason, rfl⟩)
        (fun problem _ => ⟨.undropped h problem, rfl⟩)
    refine (introduce_does socket line s).attempt ?_
    rintro steps r s' ⟨hintroduces, rfl⟩
    cases hintroduces with
    | acknowledged h => exact .pure ⟨.acknowledged h, rfl⟩
    | refused h reason => exact drops h reason
    | @failed _ h c problem hc =>
      show Does w (if (Fault.of problem).problem.isOsTrouble then _ else _) s' _
      split
      · exact drops h _
      · next hp =>
        refine .fail ⟨?_, rfl⟩
        rw [List.append_nil]
        exact .abandoned h hc (Bool.eq_false_iff.mpr hp)

/-- What comes of all attempts to register, with a rest after each one in vain. -/
inductive Registers (w : World) (host : String) (n : Int) (line : String) :
    List Step → Except Fault Socket → Prop
  | late (fault : Fault) : Registers w host n line [] (.error fault)
  | failed {steps : List Step} {fault : Fault} (h : Tries w host n line steps (.error fault)) :
    Registers w host n line steps (.error fault)
  | acknowledged {steps : List Step} {socket : Socket}
    (h : Tries w host n line steps (.ok (.acknowledged socket))) :
    Registers w host n line steps (.ok socket)
  | restless {steps : List Step} {reason : String}
    (h : Tries w host n line steps (.ok (.refused reason))) (problem : Problem) (fault : Fault) :
    Registers w host n line (steps ++ [.asked (.sleep 500) (.error problem)]) (.error fault)
  | again {steps rest : List Step} {reason : String} {r : Except Fault Socket}
    (h : Tries w host n line steps (.ok (.refused reason))) (hr : Registers w host n line rest r) :
    Registers w host n line (steps ++ .asked (.sleep 500) (.ok ()) :: rest) r

theorem register_does (host : String) (n : Int) (line : String) (deadline : Nat)
    (reason : Option String) (s : σ) :
    Does w (register host n line deadline reason) s (fun steps r s' =>
      Registers w host n line steps r ∧ s' = s) := by
  refine (rounds_register host n line deadline).does
    (fun s steps r s' => Registers w host n line steps r ∧ s' = s) (fun _ s => ?_) reason s
  refine .afterClock (fun now => ?_)
  split
  · exact .fail (.fails ⟨.late _, rfl⟩)
  · refine (registerOnce_does host n line s).bind ?_ ?_
    · rintro steps tried _ ⟨htries, rfl⟩
      cases tried with
      | acknowledged socket => exact .pure (.ends ⟨by simpa using .acknowledged htries, rfl⟩)
      | refused refusal =>
        refine .afterSleep (.pure (.next ?_)) (fun problem => .fails ⟨.restless htries _ _, rfl⟩)
        rintro rest r _ ⟨hregisters, rfl⟩
        rw [List.append_assoc]
        exact ⟨.again htries hregisters, rfl⟩
    · rintro steps fault _ ⟨htries, rfl⟩
      exact .fails ⟨.failed htries, rfl⟩

/-! ### The start -/

/-- The reaper with a container of its own. -/
def withContainer (id : ResourceId) (r : Reaper) : Reaper := { r with container := some id }

def withSocket (socket : Socket) (r : Reaper) : Reaper := { r with socket := some socket }

/-- What comes of the way from a running container to its acknowledgement. -/
inductive Connects (w : World) (r : Reaper) (id : ResourceId) :
    List Step → Except Fault Int → Reaper → Prop
  | unpublished {steps : List Step} {fault : Fault} (h : Waits r.client id steps (.error fault)) :
    Connects w r id steps (.error fault) r
  | unregistered {steps rest : List Step} {n : Int} {fault : Fault}
    (h : Waits r.client id steps (.ok n))
    (hr : Registers w r.host n (filterLine w.session) rest (.error fault)) :
    Connects w r id (steps ++ rest) (.error fault) r
  | registered {steps rest : List Step} {n : Int} {socket : Socket}
    (h : Waits r.client id steps (.ok n))
    (hr : Registers w r.host n (filterLine w.session) rest (.ok socket)) :
    Connects w r id (steps ++ rest) (.ok n) (r.withSocket socket)

theorem Connects.eq_of_error {r r' : Reaper} {id : ResourceId} {steps : List Step}
    {fault : Fault} (h : Connects w r id steps (.error fault) r') : r' = r := by
  cases h <;> rfl

theorem connect_does (r : Reaper) (id : ResourceId) :
    Does w (connect id) r (Connects w r id) := by
  refine .afterGet (.afterClock (fun now => (waitForPort_does r.client id _ r).bind ?_ ?_))
  · rintro steps n _ ⟨hwaits, rfl⟩
    refine .afterRead (.afterClock (fun now => (register_does _ n _ _ none _).bind ?_ ?_))
    · rintro rest socket _ ⟨hregisters, rfl⟩
      refine .afterChange (.pure ?_)
      rw [List.append_nil]
      exact .registered hwaits hregisters
    · rintro rest fault _ ⟨hregisters, rfl⟩
      exact .unregistered hwaits hregisters
  · rintro steps fault _ ⟨hwaits, rfl⟩
    exact .unpublished hwaits

theorem kill_does {r : Reaper} {id : ResourceId} (h : r.container = some id) :
    Does w kill r (fun steps _ r' => ∃ answer lines,
      steps = .asked (.client r.client (.killContainer id)) answer :: lines ∧
        (∀ x ∈ lines, x.IsLine) ∧ r' = r) := by
  refine .afterGet ?_
  rw [h]
  refine .attemptCall (fun answer _ => ?_)
  cases answer with
  | ok u => exact .pure ⟨_, [], rfl, by simp, rfl⟩
  | error problem =>
    show Does w (if (Fault.of problem).problem.isDaemonTrouble then _ else _) r _
    split
    · exact .log ⟨_, _, rfl, by simp [Step.IsLine.wrote], rfl⟩
    · exact .fail ⟨_, [], rfl, by simp, rfl⟩

/-- What comes of a start. A container that runs is taken down by one call when it cannot be
connected to, unless an interrupt is why. -/
inductive Starts (w : World) (r : Reaper) : List Step → Except Fault Unit → Reaper → Prop
  | unprepared {steps : List Step} (h : ∀ x ∈ steps, Prepares r.client x) (fault : Fault) :
    Starts w r steps (.error fault) r
  | refused {steps : List Step} (h : ∀ x ∈ steps, Prepares r.client x) (problem : Problem)
    (fault : Fault) :
    Starts w r (steps ++ [.asked (.client r.client (.runContainer (request r.settings w.session)))
      (.error problem)]) (.error fault) r
  | connected {steps rest : List Step} {id : ResourceId} {n : Int} {r' : Reaper}
    (h : ∀ x ∈ steps, Prepares r.client x)
    (hc : Connects w (r.withContainer id) id rest (.ok n) r') (level : Level) (message : String)
    (fields : Record Value) :
    Starts w r (steps ++ .asked (.client r.client (.runContainer (request r.settings w.session)))
      (.ok id) :: (rest ++ [.wrote level message fields])) (.ok ()) r'
  | takenDown {steps rest lines : List Step} {id : ResourceId} {fault : Fault} {r' : Reaper}
    (h : ∀ x ∈ steps, Prepares r.client x)
    (hc : Connects w (r.withContainer id) id rest (.error fault) r')
    (answer : Except Problem Unit) (hl : ∀ x ∈ lines, x.IsLine) (fault' : Fault) :
    Starts w r (steps ++ .asked (.client r.client (.runContainer (request r.settings w.session)))
      (.ok id) :: (rest ++ .asked (.client r.client (.killContainer id)) answer :: lines))
      (.error fault') r'
  | interrupted {steps rest : List Step} {id : ResourceId} {fault : Fault} {r' : Reaper}
    (h : ∀ x ∈ steps, Prepares r.client x)
    (hc : Connects w (r.withContainer id) id rest (.error fault) r')
    (hf : fault.problem.isException = false) :
    Starts w r (steps ++ .asked (.client r.client (.runContainer (request r.settings w.session)))
      (.ok id) :: rest) (.error fault) r'

/-- The container is asked for once its image is there. -/
theorem runContainer_does (k : Client) (image : String) (request : Record Value) (s : σ) :
    Does w (do ensureImage k image; onClient k (.runContainer request)) s (fun steps r s' =>
      ((∃ fault, (∀ x ∈ steps, Prepares k x) ∧ r = .error fault) ∨
        ∃ before answer, (∀ x ∈ before, Prepares k x) ∧
          steps = before ++ [.asked (.client k (.runContainer request)) answer] ∧
          r = answer.mapError Fault.of) ∧ s' = s) := by
  refine (ensureImage_does k image s).bind ?_ ?_
  · rintro before _ _ ⟨hprepares, rfl⟩
    exact .call (fun answer _ => ⟨.inr ⟨before, answer, hprepares, rfl, rfl⟩, rfl⟩)
  · rintro steps fault _ ⟨hprepares, rfl⟩
    exact ⟨.inl ⟨fault, hprepares, rfl⟩, rfl⟩

theorem start_does {r : Reaper} (hr : r.settings.reaperDisabled = false) :
    Does w start r (Starts w r) := by
  refine .afterGet ?_
  simp only [hr, Bool.false_eq_true, if_false]
  refine .afterRead ((runContainer_does _ _ _ r).attempt ?_)
  rintro steps ran r ⟨⟨fault, hprepares, rfl⟩ | ⟨before, answer, hprepares, rfl, rfl⟩, rfl⟩
  · have hends (fault : Fault) : Starts w r (steps ++ []) (.error fault) r := by
      rw [List.append_nil]
      exact .unprepared hprepares fault
    show Does w (if fault.problem.isDaemonTrouble then _ else _) r _
    split
    · exact .fail (hends _)
    · exact .fail (hends _)
  · cases answer with
    | error problem =>
      have hends (fault : Fault) : Starts w r ((before ++ [.asked (.client r.client (.runContainer
          (request r.settings w.session))) (.error problem)]) ++ []) (.error fault) r := by
        rw [List.append_nil]
        exact .refused hprepares problem fault
      show Does w (if (Fault.of problem).problem.isDaemonTrouble then _ else _) r _
      split
      · exact .fail (hends _)
      · exact .fail (hends _)
    | ok id =>
      refine .afterChange ((connect_does _ id).attempt ?_)
      intro rest connected r' hconnects
      simp only [List.append_assoc, List.singleton_append]
      cases connected with
      | ok n => exact .log (.connected hprepares hconnects _ _ _)
      | error fault =>
        show Does w (if fault.problem.isException then do kill; fail fault else fail fault) r' _
        obtain rfl := hconnects.eq_of_error
        split
        · have hown : (r.withContainer id).container = some id := rfl
          refine (kill_does hown).bind ?_ ?_
          · rintro _ _ _ ⟨answer, lines, rfl, hlines, rfl⟩
            refine .fail ?_
            rw [List.append_nil]
            exact .takenDown hprepares hconnects answer hlines fault
          · rintro _ fault' _ ⟨answer, lines, rfl, hlines, rfl⟩
            exact .takenDown hprepares hconnects answer hlines fault'
        · next hf =>
          refine .fail ?_
          rw [List.append_nil]
          exact .interrupted hprepares hconnects (Bool.eq_false_iff.mpr hf)

end Reaper

namespace Agent

/-- An agent that has not been started is started now, and known to be if nothing goes wrong. -/
theorem ensureStarted_of_idle {agent : Agent} (hidle : agent.started = false)
    {post : List Step → Except Fault Unit → Agent → Prop} (h : Does w startCleaner agent post) :
    Does w ensureStarted agent (fun steps result agent' => ∃ line rest agent₁, line.IsLine ∧
      steps = line :: rest ∧ post rest result agent₁ ∧
        agent' = { agent₁ with started := result.toBool || agent₁.started }) := by
  refine .afterGet ?_
  simp only [hidle, Bool.false_eq_true, if_false]
  refine .afterLog (h.bind ?_ ?_)
  · intro rest _ agent₁ hpost
    refine .change ?_
    rw [List.append_nil]
    exact ⟨_, rest, agent₁, .wrote _ _ _, rfl, hpost, rfl⟩
  · intro rest fault agent₁ hpost
    exact ⟨_, rest, agent₁, .wrote _ _ _, rfl, hpost, rfl⟩

theorem ensureStarted_does {agent : Agent} {r : Reaper} (hcleaner : agent.cleaner = .reaper r)
    (henabled : r.settings.reaperDisabled = false) (hidle : agent.started = false) :
    Does w ensureStarted agent (fun steps result agent' => ∃ line rest r', line.IsLine ∧
      steps = line :: rest ∧ Reaper.Starts w r rest result r' ∧
        agent' = { cleaner := .reaper r', started := result.toBool }) := by
  have starts : Does w startCleaner agent (fun rest result agent' => ∃ r',
      Reaper.Starts w r rest result r' ∧ agent' = withCleaner (.reaper r') agent) := by
    refine .afterGet ?_
    rw [hcleaner]
    exact (Reaper.start_does henabled).within
  refine (ensureStarted_of_idle hidle starts).mono ?_
  rintro _ result _ ⟨line, rest, _, hline, rfl, ⟨r', hstarts, rfl⟩, rfl⟩
  refine ⟨line, rest, r', hline, rfl, hstarts, ?_⟩
  rw [withCleaner, hidle, Bool.or_false]

end Agent

/-! ### A slow world -/

/-- The event of a container being taken down. -/
def Event.isKill : Event → Bool
  | .called (.client _ (.killContainer _)) => true
  | _ => false

def Event.isReceive : Event → Bool
  | .called (.socket (.receive _ _)) => true
  | _ => false

/-- A world in which the first container never publishes its port, the second does, and only the
second socket answers with the acknowledgement. -/
def World.slow : World :=
  { World.plain (fun _ => none) with
    answer := fun events c => match c with
      | .client _ (.runContainer _) =>
        { result := .ok (if events.any Event.isKill then "second" else "first") }
      | .client _ (.containerPorts _) =>
        { result := .ok (if events.any Event.isKill then
            .object [(Reaper.port, .list [.object [("HostPort", .text "49153")]])]
          else .object []) }
      | .socket (.receive _ _) =>
        { result := .ok (Text.encode
            (if events.any Event.isReceive then "ACK\n" else "NACK\n").toList) }
      | c => { result := .ok c.plain } }

theorem World.calm_slow : World.slow.Calm := by
  refine ⟨fun events c problem h => ?_, fun _ _ h => (by cases h), fun _ _ _ h => by cases h⟩
  simp only [World.slow] at h
  split at h <;> cases h

/-- A reaper with a quarter of a second of patience. -/
def Agent.hasty : Agent where
  cleaner := .reaper
    { client := "client", settings := .plain, host := "localhost", patience := ⟨false, 1, -2⟩ }

end Mooring
