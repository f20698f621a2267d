import Mooring.Proofs.Agent.Reaper

/-! What a reaper holds, one container and one socket at the most. Steps that take something and
steps that give it back are followed one by one, so that what is held is known at every moment;
every course of a start is shown to end with a container and a socket, or with neither. -/

namespace Mooring

open Mooring.Action

/-! ### One thing at a time -/

section Holding

variable {β : Type}

theorem length_sub_of_balance {xs ys : List β} {held : Option β} (h : xs = ys ++ held.toList) :
    (xs.length - ys.length : Int) = if held.isSome then 1 else 0 := by
  subst h
  cases held with
  | none => simp
  | some b =>
    simp only [Option.toList_some, List.length_append, List.length_singleton, Option.isSome_some,
      if_true]
    omega

variable [DecidableEq β]

/-- What is held after one thing was taken or given back: nothing is taken as long as something is
held, and nothing given back but what is held. -/
def hold (held taken given : Option β) : Option (Option β) :=
  match taken, given with
  | none, none => some held
  | some b, none => if held = none then some (some b) else none
  | none, some b => if held = some b then some none else none
  | some _, some _ => none

/-- What is held after a stretch of steps that take and give back one thing at a time. -/
def holding (taken given : Step → Option β) (held : Option β) : List Step → Option (Option β)
  | [] => some held
  | x :: xs => (hold held (taken x) (given x)).bind (fun held => holding taken given held xs)

variable {taken given : Step → Option β}

theorem holding_append (held : Option β) (xs ys : List Step) :
    holding taken given held (xs ++ ys) =
      (holding taken given held xs).bind (fun held => holding taken given held ys) := by
  induction xs generalizing held with
  | nil => rfl
  | cons x xs ih => simp [holding, ih, Option.bind_assoc]

theorem holding_of_quiet {xs : List Step} (h : ∀ x ∈ xs, taken x = none ∧ given x = none)
    (held : Option β) : holding taken given held xs = some held := by
  induction xs with
  | nil => rfl
  | cons x xs ih =>
    obtain ⟨⟨htaken, hgiven⟩, hxs⟩ := List.forall_mem_cons.mp h
    simp [holding, hold, htaken, hgiven, ih hxs]

/-- What was held before and what was taken is what was given back and what is held after. -/
theorem balance_of_holding {xs : List Step} {held held' : Option β}
    (h : holding taken given held xs = some held') :
    held.toList ++ xs.filterMap taken = xs.filterMap given ++ held'.toList := by
  induction xs generalizing held with
  | nil =>
    obtain rfl : held = held' := by simpa [holding] using h
    simp
  | cons x xs ih =>
    obtain ⟨between, hhold, hrest⟩ := Option.bind_eq_some_iff.mp h
    have hrest := ih hrest
    rw [List.filterMap_cons, List.filterMap_cons]
    cases htaken : taken x with
    | none =>
      cases hgiven : given x with
      | none =>
        simp only [hold, htaken, hgiven, Option.some.injEq] at hhold
        subst hhold
        exact hrest
      | some b =>
        simp only [hold, htaken, hgiven, Option.ite_none_right_eq_some, Option.some.injEq] at hhold
        obtain ⟨rfl, rfl⟩ := hhold
        exact congrArg (b :: ·) hrest
    | some b =>
      cases hgiven : given x with
      | none =>
        simp only [hold, htaken, hgiven, Option.ite_none_right_eq_some, Option.some.injEq] at hhold
        obtain ⟨rfl, rfl⟩ := hhold
        exact hrest
      | some b' => simp [hold, htaken, hgiven] at hhold

/-- At every moment of a stretch one thing is held or none. -/
theorem exists_of_holding {xs : List Step} {held : Option β}
    (h : holding taken given none xs = some held) {before : List Step} (hb : before <+: xs) :
    ∃ one : Option β, before.filterMap taken = before.filterMap given ++ one.toList := by
  obtain ⟨after, rfl⟩ := hb
  rw [holding_append] at h
  obtain ⟨one, hone, -⟩ := Option.bind_eq_some_iff.mp h
  exact ⟨one, balance_of_holding hone⟩

end Holding

namespace Step

/-- The container that a step has started. -/
def ran? : Step → Option ResourceId
  | .asked (.client _ (.runContainer _)) (.ok id) => some id
  | _ => none

/-- The container that a step takes down, whatever the daemon answers. -/
def killed? : Step → Option ResourceId
  | .asked (.client _ (.killContainer id)) _ => some id
  | _ => none

/-- The socket that a step has connected. -/
def connected? : Step → Option Socket
  | .asked (.socket (.connect _ _)) (.ok socket) => some socket
  | _ => none

def parted? : Step → Option Socket
  | .asked (.socket (.close socket)) _ => some socket
  | _ => none

/-- The process that a step has started. -/
def launched? : Step → Option Process
  | .asked (.startProcess _ _ _) (.ok process) => some process
  | _ => none

/-- A step that neither takes nor gives back a container or a socket. -/
structure IsQuiet (x : Step) : Prop where
  ran : x.ran? = none
  killed : x.killed? = none
  connected : x.connected? = none
  parted : x.parted? = none

end Step

theorem Prepares.isQuiet {k : Client} {x : Step} (h : Prepares k x) : x.IsQuiet := by
  cases h <;> exact ⟨rfl, rfl, rfl, rfl⟩

theorem Reaper.Looks.isQuiet {k : Client} {id : ResourceId} {x : Step} (h : Looks k id x) :
    x.IsQuiet := by
  cases h <;> exact ⟨rfl, rfl, rfl, rfl⟩

theorem Reaper.Talks.isQuiet {socket : Socket} {x : Step} (h : Talks socket x) : x.IsQuiet := by
  cases h <;> exact ⟨rfl, rfl, rfl, rfl⟩

theorem Step.IsLine.isQuiet {x : Step} (h : x.IsLine) : x.IsQuiet := by
  cases h
  exact ⟨rfl, rfl, rfl, rfl⟩

/-- The container and the socket that are held. -/
structure Held where
  container : Option ResourceId := none
  socket : Option Socket := none

/-- A stretch of steps leads from what is held before it to what is held after it. -/
structure Leads (held : Held) (steps : List Step) (held' : Held) : Prop where
  container : holding Step.ran? Step.killed? held.container steps = some held'.container
  socket : holding Step.connected? Step.parted? held.socket steps = some held'.socket

section Leads

variable {held held' held'' : Held} {steps rest : List Step}

theorem Leads.append (h : Leads held steps held') (h' : Leads held' rest held'') :
    Leads held (steps ++ rest) held'' := by
  refine ⟨?_, ?_⟩
  · rw [holding_append, h.container]
    exact h'.container
  · rw [holding_append, h.socket]
    exact h'.socket

theorem Leads.quiet (h : ∀ x ∈ steps, x.IsQuiet) (held : Held) : Leads held steps held :=
  ⟨holding_of_quiet (fun x hx => ⟨(h x hx).ran, (h x hx).killed⟩) _,
    holding_of_quiet (fun x hx => ⟨(h x hx).connected, (h x hx).parted⟩) _⟩

theorem Leads.cons {x : Step} (hx : x.IsQuiet) (h : Leads held steps held') :
    Leads held (x :: steps) held' := by
  have hone : ∀ y ∈ [x], y.IsQuiet := by simpa using hx
  exact (Leads.quiet hone held).append h

theorem Leads.run (k : Client) (request : Record Value) (id : ResourceId) (socket : Option Socket) :
    Leads ⟨none, socket⟩ [.asked (.client k (.runContainer request)) (.ok id)] ⟨some id, socket⟩ :=
  ⟨rfl, rfl⟩

theorem Leads.kill (k : Client) (id : ResourceId) (answer : Except Problem Unit)
    (socket : Option Socket) :
    Leads ⟨some id, socket⟩ [.asked (.client k (.killContainer id)) answer] ⟨none, socket⟩ :=
  ⟨by simp [holding, hold, Step.ran?, Step.killed?], rfl⟩

theorem Leads.connect (host : String) (n : Int) (socket : Socket)
    (container : Option ResourceId) :
    Leads ⟨container, none⟩ [.asked (.socket (.connect host n)) (.ok socket)]
      ⟨container, some socket⟩ :=
  ⟨rfl, rfl⟩

theorem Leads.part (socket : Socket) (answer : Except Problem Unit)
    (container : Option ResourceId) :
    Leads ⟨container, some socket⟩ [.asked (.socket (.close socket)) answer] ⟨container, none⟩ :=
  ⟨rfl, by simp [holding, hold, Step.connected?, Step.parted?]⟩

end Leads

/-! ### The start of a reaper -/

/-- A world whose sockets fail only as the network does, and can be closed. -/
structure World.Networked (w : World) : Prop where
  sockets : ∀ events (c : SocketCall) problem,
    (w.answer events (.socket c)).result = .error problem → problem.isOsTrouble = true
  closes : ∀ events socket, (w.answer events (.socket (.close socket))).result = .ok ()

namespace Reaper

variable {w : World} {host : String} {n : Int} {line : String} {steps : List Step}

def Registration.socket? : Registration → Option Socket
  | .acknowledged socket => some socket
  | .refused _ => none

theorem Waits.isQuiet {k : Client} {id : ResourceId} {r : Except Fault Int}
    (h : Waits k id steps r) : ∀ x ∈ steps, x.IsQuiet := by
  induction h with
  | found =>
    simp only [List.forall_mem_cons]
    exact ⟨(Looks.reload _).isQuiet, (Looks.ports _).isQuiet, by simp⟩
  | failed h => exact fun x hx => (h x hx).isQuiet
  | again h _ ih =>
    intro x hx
    rcases List.mem_append.mp hx with hx | hx
    · exact (h x hx).isQuiet
    · exact ih x hx

theorem leads_of_talk {socket : Socket} {talk : List Step} (h : ∀ x ∈ talk, Talks socket x)
    (container : Option ResourceId) :
    Leads ⟨container, none⟩ (.asked (.socket (.connect host n)) (.ok socket) :: talk)
      ⟨container, some socket⟩ :=
  (Leads.connect host n socket container).append (.quiet (fun x hx => (h x hx).isQuiet) _)

theorem leads_of_drop {socket : Socket} {talk : List Step} (h : ∀ x ∈ talk, Talks socket x)
    (answer : Except Problem Unit) (container : Option ResourceId) :
    Leads ⟨container, none⟩ (.asked (.socket (.connect host n)) (.ok socket) ::
      (talk ++ [.asked (.socket (.close socket)) answer])) ⟨container, none⟩ :=
  (leads_of_talk h container).append (.part socket answer container)

/-- An attempt to register that is over leaves no socket open but an acknowledged one. -/
theorem Tries.leads_of_ok {registration : Registration}
    (h : Tries w host n line steps (.ok registration)) (container : Option ResourceId) :
    Leads ⟨container, none⟩ steps ⟨container, registration.socket?⟩ := by
  cases h with
  | unreached problem reason => exact ⟨rfl, rfl⟩
  | @acknowledged socket answer h =>
    refine leads_of_talk ?_ container
    simp [acknowledging, Talks.send, Talks.receive, Talks.clear]
  | dropped h reason => exact leads_of_drop h _ container

/-- Whatever comes of an attempt to register, no socket stays open but an acknowledged one. -/
theorem Tries.leads (hw : w.Networked) {r : Except Fault Registration}
    (h : Tries w host n line steps r) (container : Option ResourceId) :
    Leads ⟨container, none⟩ steps ⟨container, r.toOption.bind Registration.socket?⟩ := by
  cases r with
  | ok registration => exact h.leads_of_ok container
  | error fault =>
    cases h with
    | barred problem fault => exact ⟨rfl, rfl⟩
    | undropped h problem => exact leads_of_drop h _ container
    | abandoned h hc hp =>
      obtain ⟨events, hevents⟩ := hc
      rw [hw.sockets _ _ _ hevents] at hp
      cases hp

theorem Registers.leads (hw : w.Networked) {r : Except Fault Socket}
    (h : Registers w host n line steps r) (container : Option ResourceId) :
    Leads ⟨container, none⟩ steps ⟨container, r.toOption⟩ := by
  induction h with
  | late fault => exact ⟨rfl, rfl⟩
  | failed h => exact h.leads hw container
  | acknowledged h => exact h.leads hw container
  | restless h problem fault => exact (h.leads hw container).append ⟨rfl, rfl⟩
  | again h _ ih => exact (h.leads hw container).append (.cons ⟨rfl, rfl, rfl, rfl⟩ ih)

theorem Connects.leads (hw : w.Networked) {r r' : Reaper} {id : ResourceId}
    {result : Except Fault Int} (h : Connects w r id steps result r') (hr : r.socket = none)
    (container : Option ResourceId) :
    Leads ⟨container, none⟩ steps ⟨container, r'.socket⟩ := by
  cases h with
  | unpublished h =>
    rw [hr]
    exact .quiet h.isQuiet _
  | unregistered h hregisters =>
    rw [hr]
    exact (Leads.quiet h.isQuiet _).append (hregisters.leads hw container)
  | registered h hregisters =>
    exact (Leads.quiet h.isQuiet _).append (hregisters.leads hw container)

theorem Connects.socket_isSome {r r' : Reaper} {id : ResourceId}
    (h : Connects w r id steps (.ok n) r') : r'.socket.isSome = true := by
  cases h
  rfl

theorem Connects.container_eq {r r' : Reaper} {id : ResourceId} {result : Except Fault Int}
    (h : Connects w r id steps result r') : r'.container = r.container := by
  cases h <;> rfl

theorem Connects.settings_eq {r r' : Reaper} {id : ResourceId} {result : Except Fault Int}
    (h : Connects w r id steps result r') : r'.settings = r.settings := by
  cases h <;> rfl

theorem Starts.settings_eq {r r' : Reaper} {result : Except Fault Unit}
    (h : Starts w r steps result r') : r'.settings = r.settings := by
  cases h with
  | unprepared | refused => rfl
  | connected _ hc | takenDown _ hc | interrupted _ hc => exact hc.settings_eq

/-- A start ends with a container and a socket held, or with neither. -/
theorem Starts.leads (hw : w.Networked) {r r' : Reaper} {result : Except Fault Unit}
    (h : Starts w r steps result r') (hr : r.socket = none)
    (hallowed : ∀ fault, result = .error fault → fault.problem.isException = true) :
    Leads {} steps ⟨if result.toBool then r'.container else none, r'.socket⟩ ∧
      r'.socket.isSome = result.toBool ∧ (result.toBool = true → r'.container.isSome = true) := by
  cases h with
  | unprepared h fault =>
    refine ⟨?_, ?_, nofun⟩
    · rw [hr]
      exact .quiet (fun x hx => (h x hx).isQuiet) _
    · rw [hr]
      rfl
  | refused h problem fault =>
    refine ⟨?_, ?_, nofun⟩
    · rw [hr]
      exact (Leads.quiet (fun x hx => (h x hx).isQuiet) _).append ⟨rfl, rfl⟩
    · rw [hr]
      rfl
  | @connected before rest id n r' h hc level message fields =>
    have hcontainer : r'.container = some id := hc.container_eq
    refine ⟨?_, hc.socket_isSome, fun _ => by rw [hcontainer]; rfl⟩
    have hlast : Leads ⟨some id, r'.socket⟩ [.wrote level message fields] ⟨some id, r'.socket⟩ :=
      ⟨rfl, rfl⟩
    rw [show (if (Except.ok () : Except Fault Unit).toBool then r'.container else none) = some id
      from hcontainer]
    refine (Leads.quiet (fun x hx => (h x hx).isQuiet) _).append ?_
    exact (Leads.run _ _ id none).append ((hc.leads hw hr (some id)).append hlast)
  | @takenDown before rest lines id fault r' h hc answer hl fault' =>
    obtain rfl := hc.eq_of_error
    have hnone : (r.withContainer id).socket = none := hr
    refine ⟨?_, by rw [hnone]; rfl, nofun⟩
    refine (Leads.quiet (fun x hx => (h x hx).isQuiet) _).append ?_
    refine (Leads.run _ _ id none).append ((hc.leads hw hr (some id)).append ?_)
    exact (Leads.kill r.client id answer _).append (.quiet (fun x hx => (hl x hx).isQuiet) _)
  | interrupted h hc hf =>
    rw [hallowed _ rfl] at hf
    cases hf

/-- The reaper without its socket. -/
def parted (r : Reaper) : Reaper := { r with socket := none }

theorem close_does (hw : w.Networked) (r : Reaper) :
    Does w close r (fun steps _ r' => r' = r.parted ∧
      ∀ container, Leads ⟨container, r.socket⟩ steps ⟨container, none⟩) := by
  refine .afterGet ?_
  cases hsocket : r.socket with
  | none =>
    refine .pure ⟨?_, fun _ => ⟨rfl, rfl⟩⟩
    rw [parted, ← hsocket]
  | some socket =>
    refine .ask (fun u _ => .change ⟨rfl, fun container => .part socket _ container⟩) ?_
    rintro problem ⟨events, hevents⟩
    rw [hw.closes] at hevents
    cases hevents

end Reaper

end Mooring
