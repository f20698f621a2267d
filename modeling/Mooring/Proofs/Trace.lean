import Mooring.Proofs.Run

/-! What a journal tells about the connection: which routes were asked for what, which clients were
opened and closed, and which events have no part in either. The answer to a call does not stand in
the journal; it follows from the world and the events before the call. -/

namespace Mooring

/-- The client that a call opens, by its answer. -/
def Call.opened : (c : Call) → c.Answer → Option Client
  | .clientFor _ _, name => some name
  | .clientFromEnvironment, name => some name
  | .clientAt _ _ _, name => some name
  | .route _ .createClient, name => some name
  | _, _ => none

@[simp] theorem Call.opened_clientFor (environment : Record String) (timeout : Int) :
    (Call.clientFor environment timeout).opened = some := rfl

@[simp] theorem Call.opened_clientAt (url : String) (timeout : Int) (tls : Option Tls) :
    (Call.clientAt url timeout tls).opened = some := rfl

@[simp] theorem Call.opened_createClient (name : String) :
    (Call.route name .createClient).opened = some := rfl

@[simp] theorem Call.opened_isApplicable (name : String) :
    (Call.route name .isApplicable).opened = fun _ => none := rfl

@[simp] theorem Call.opened_findExecutable (program : String) :
    (Call.findExecutable program).opened = fun _ => none := rfl

@[simp] theorem Call.opened_client (client : Client) (c : ClientCall) :
    (Call.client client c).opened = fun _ => none := rfl

/-- What an event shows of the choice of a route. -/
inductive Mark where
  /-- A supplied route was asked whether it makes sense. -/
  | asked (name : String)
  /-- The program that a route needs was looked for. -/
  | sought (program : String)
  /-- A supplied route was asked for a client. -/
  | created (name : String)
  | skipped (description : String)
  | probed (description : String)
  /-- The request timeout of a client was set. -/
  | limited (client : Client) (seconds : Int)
  deriving DecidableEq, Repr

namespace Event

/-- The client that an event opened, if the world let it. -/
def opened? (w : World) (past : List Event) : Event → Option Client
  | .called c => (w.answer past c).result.toOption.bind c.opened
  | _ => none

/-- The client that an event closes. -/
def closed? : Event → Option Client
  | .called (.client client .close) => some client
  | _ => none

def mark? : Event → Option Mark
  | .called (.route name .isApplicable) => some (.asked name)
  | .called (.findExecutable program) => some (.sought program)
  | .called (.route name .createClient) => some (.created name)
  | .called (.client client (.setTimeout seconds)) => some (.limited client seconds)
  | .logged _ message ((_, .text description) :: _) =>
    if message = "Skipping connection strategy" then some (.skipped description)
    else if message = "Probing connection strategy" then some (.probed description)
    else none
  | _ => none

/-- Whether a daemon is asked about itself. -/
def isInfo : Event → Bool
  | .called (.client _ .info) => true
  | _ => false

/-- Whether a daemon is asked for its version. -/
def isVersion : Event → Bool
  | .called (.client _ .version) => true
  | _ => false

/-- Whether an event belongs to the making of a connection and to nothing else. -/
def isConnecting : Event → Bool
  | .called (.clientFor _ _) => true
  | .called .clientFromEnvironment => true
  | .called (.clientAt _ _ _) => true
  | .called (.route _ .isApplicable) => true
  | .called (.route _ .createClient) => true
  | .called (.findExecutable _) => true
  | .called (.client _ (.setTimeout _)) => true
  | .called (.client _ .info) => true
  | .called (.client _ .version) => true
  | .logged _ message _ =>
    message = "Skipping connection strategy" ∨ message = "Probing connection strategy"
  | _ => false

/-- Whether an event has no part in making a connection or closing a client. -/
def isAside (e : Event) : Bool := !e.isConnecting && e.closed?.isNone

theorem isConnecting_of_isAside {e : Event} (h : e.isAside = true) : e.isConnecting = false := by
  simp only [isAside, Bool.and_eq_true, Bool.not_eq_true'] at h
  exact h.1

theorem closed?_of_isAside {e : Event} (h : e.isAside = true) : e.closed? = none := by
  simp only [isAside, Bool.and_eq_true, Option.isNone_iff_eq_none] at h
  exact h.2

theorem mark?_eq_none {e : Event} (h : e.isConnecting = false) : e.mark? = none := by
  unfold mark?
  split <;> simp_all [isConnecting]

theorem opened?_eq_none {e : Event} (h : e.isConnecting = false) (w : World)
    (past : List Event) : e.opened? w past = none := by
  cases e with
  | called c =>
    have hnone : ∀ a, c.opened a = none := by
      intro a
      unfold Call.opened
      split <;> simp_all [isConnecting]
    simp [opened?, hnone]
  | logged level message fields => rfl
  | shown what => rfl

theorem isInfo_eq_false {e : Event} (h : e.isConnecting = false) : e.isInfo = false := by
  unfold isInfo
  split <;> simp_all [isConnecting]

theorem isVersion_eq_false {e : Event} (h : e.isConnecting = false) : e.isVersion = false := by
  unfold isVersion
  split <;> simp_all [isConnecting]

/-- A line other than the two about candidates has no part in the making of a connection. -/
theorem isAside_logged {level : Level} {message : String} {fields : Record Value}
    (hs : message ≠ "Skipping connection strategy")
    (hp : message ≠ "Probing connection strategy") :
    (Event.logged level message fields).isAside = true := by
  simp [isAside, isConnecting, closed?, hs, hp]

/-- The clients that were opened in a stretch of events, oldest first. -/
def openedIn (w : World) (past : List Event) : List Event → List Client
  | [] => []
  | e :: es => (e.opened? w past).toList ++ openedIn w (past ++ [e]) es

theorem openedIn_append (w : World) (past es fs : List Event) :
    openedIn w past (es ++ fs) = openedIn w past es ++ openedIn w (past ++ es) fs := by
  induction es generalizing past with
  | nil => simp [openedIn]
  | cons e es ih => simp [openedIn, ih, List.append_assoc]

theorem openedIn_eq_nil (w : World) (past : List Event) {es : List Event}
    (h : ∀ e ∈ es, e.isConnecting = false) : openedIn w past es = [] := by
  induction es generalizing past with
  | nil => rfl
  | cons e es ih =>
    have he := opened?_eq_none (h e List.mem_cons_self) w past
    have hes := ih (past ++ [e]) (fun e' he' => h e' (List.mem_cons_of_mem _ he'))
    simp [openedIn, he, hes]

end Event

namespace Journal

variable {w : World} {j j' j'' : Journal} {p q : Event → Bool}

/-- The clients that were opened so far, oldest first. -/
def opened (w : World) (j : Journal) : List Client := Event.openedIn w [] j.events

/-- The clients that were closed so far, one entry for every call. -/
def closed (j : Journal) : List Client := j.events.filterMap Event.closed?

def marks (j : Journal) : List Mark := j.events.filterMap Event.mark?

/-- How often a daemon was asked about itself. -/
def infos (j : Journal) : Nat := j.events.countP Event.isInfo

/-- How often a daemon was asked for its version. -/
def versions (j : Journal) : Nat := j.events.countP Event.isVersion

/-- A journal goes on with events of one kind. -/
def Grows (p : Event → Bool) (j j' : Journal) : Prop :=
  ∃ es, j'.events = j.events ++ es ∧ ∀ e ∈ es, p e = true

theorem Grows.refl (p : Event → Bool) (j : Journal) : j.Grows p j := ⟨[], by simp⟩

theorem Grows.trans (h : j.Grows p j') (h' : j'.Grows p j'') : j.Grows p j'' := by
  obtain ⟨es, he, hp⟩ := h
  obtain ⟨fs, hf, hq⟩ := h'
  refine ⟨es ++ fs, by rw [hf, he, List.append_assoc], ?_⟩
  intro e hmem
  rcases List.mem_append.mp hmem with hm | hm
  · exact hp e hm
  · exact hq e hm

theorem Grows.mono (h : j.Grows p j') (hpq : ∀ e, p e = true → q e = true) : j.Grows q j' := by
  obtain ⟨es, he, hp⟩ := h
  exact ⟨es, he, fun e hmem => hpq e (hp e hmem)⟩

theorem Grows.add {e : Event} (h : p e = true) (j : Journal) : j.Grows p (j.add e) :=
  ⟨[e], rfl, by simpa using h⟩

theorem Grows.call {c : Call} (h : p (.called c) = true) (w : World) (j : Journal) :
    j.Grows p (j.afterCall w c) :=
  ⟨[.called c], rfl, by simpa using h⟩

theorem Grows.advance (h : j.Grows p j') (milliseconds : Nat) :
    j.Grows p (j'.advance milliseconds) := h

/-- Steps in a row go on with events of one kind if each of them does. -/
theorem Grows.seq {σ α β : Type} {act : Action σ α} {next : α → Action σ β} {s : σ}
    (h : j.Grows p (act w s j).2.2)
    (hn : ∀ a s' j', act w s j = (.ok a, s', j') → j'.Grows p (next a w s' j').2.2) :
    j.Grows p ((act >>= next) w s j).2.2 := by
  rcases e : act w s j with ⟨fault | a, s', j'⟩
  · rw [e] at h
    rw [Action.run_bind_error e]
    exact h
  · rw [e] at h
    rw [Action.run_bind_ok e]
    exact h.trans (hn a s' j' e)

/-- A journal goes on with events that have no part in the connection. -/
abbrev Aside (j j' : Journal) : Prop := j.Grows Event.isAside j'

/-- A journal goes on with events that have no part in the making of a connection. -/
abbrev Apart (j j' : Journal) : Prop := j.Grows (fun e => !e.isConnecting) j'

/-- Where no client has been closed, nothing that has no part in the making of a connection has any
part in it at all. -/
theorem Grows.aside (h : j.Apart j') (hclosed : j'.closed = j.closed) : j.Aside j' := by
  obtain ⟨es, he, hp⟩ := h
  have hnone : es.filterMap Event.closed? = [] := by
    simpa [Journal.closed, he] using hclosed
  rw [List.filterMap_eq_nil_iff] at hnone
  refine ⟨es, he, fun e hmem => ?_⟩
  have hapart : (!e.isConnecting) = true := hp e hmem
  rw [Event.isAside, hapart, hnone e hmem]
  rfl

theorem Grows.apart (h : j.Aside j') : j.Apart j' :=
  h.mono (fun _ he => by rw [Event.isConnecting_of_isAside he]; rfl)

end Journal

/-! ### Books

All that a journal tells about the connection, taken together. What a run adds to the books does
not depend on what stands in them, and stretches of a run add up. -/

structure Books where
  marks : List Mark := []
  opened : List Client := []
  closed : List Client := []
  infos : Nat := 0
  versions : Nat := 0

namespace Books

instance : Append Books where
  append b d :=
    ⟨b.marks ++ d.marks, b.opened ++ d.opened, b.closed ++ d.closed, b.infos + d.infos,
      b.versions + d.versions⟩

theorem append_def (b d : Books) :
    b ++ d = ⟨b.marks ++ d.marks, b.opened ++ d.opened, b.closed ++ d.closed,
      b.infos + d.infos, b.versions + d.versions⟩ := rfl

@[simp] theorem append_nil (b : Books) : b ++ ({} : Books) = b := by
  simp [append_def]

theorem append_assoc (b d e : Books) : b ++ d ++ e = b ++ (d ++ e) := by
  simp [append_def, List.append_assoc, Nat.add_assoc]

end Books

/-- What an event enters in the books. -/
def Event.entry (w : World) (past : List Event) (e : Event) : Books where
  marks := e.mark?.toList
  opened := (e.opened? w past).toList
  closed := e.closed?.toList
  infos := e.isInfo.toNat
  versions := e.isVersion.toNat

/-! ### Entries

What the events that count enter in the books. -/

namespace Event

variable (w : World) (past : List Event)

theorem entry_of_unopened {c : Call} (h : c.opened = fun _ => none) :
    (called c).entry w past =
      { marks := (called c).mark?.toList
        closed := (called c).closed?.toList
        infos := (called c).isInfo.toNat
        versions := (called c).isVersion.toNat } := by
  have hopened : (called c).opened? w past = none := by
    rw [opened?, h, Option.bind_fun_none]
  rw [entry, hopened]
  rfl

@[simp] theorem entry_asked (name : String) :
    (called (.route name .isApplicable)).entry w past = { marks := [.asked name] } :=
  entry_of_unopened w past (Call.opened_isApplicable name)

@[simp] theorem entry_sought (program : String) :
    (called (.findExecutable program)).entry w past = { marks := [.sought program] } :=
  entry_of_unopened w past (Call.opened_findExecutable program)

@[simp] theorem entry_skipped (level : Level) (key d : String) (fields : Record Value) :
    (logged level "Skipping connection strategy" ((key, .text d) :: fields)).entry w past =
      { marks := [.skipped d] } := rfl

@[simp] theorem entry_probed (level : Level) (key d : String) (fields : Record Value) :
    (logged level "Probing connection strategy" ((key, .text d) :: fields)).entry w past =
      { marks := [.probed d] } := rfl

@[simp] theorem entry_limited (k : Client) (seconds : Int) :
    (called (.client k (.setTimeout seconds))).entry w past =
      { marks := [.limited k seconds] } :=
  entry_of_unopened w past (Call.opened_client k _)

@[simp] theorem entry_closed (k : Client) :
    (called (.client k .close)).entry w past = { closed := [k] } :=
  entry_of_unopened w past (Call.opened_client k _)

@[simp] theorem entry_info (k : Client) :
    (called (.client k .info)).entry w past = { infos := 1 } :=
  entry_of_unopened w past (Call.opened_client k _)

@[simp] theorem entry_version (k : Client) :
    (called (.client k .version)).entry w past = { versions := 1 } :=
  entry_of_unopened w past (Call.opened_client k _)

@[simp] theorem entry_clientFor (environment : Record String) (timeout : Int) :
    (called (.clientFor environment timeout)).entry w past =
      { opened := (w.answer past (.clientFor environment timeout)).result.toOption.toList } := by
  simp [entry, opened?, mark?, closed?, isInfo, isVersion]

@[simp] theorem entry_clientAt (url : String) (timeout : Int) (tls : Option Tls) :
    (called (.clientAt url timeout tls)).entry w past =
      { opened := (w.answer past (.clientAt url timeout tls)).result.toOption.toList } := by
  simp [entry, opened?, mark?, closed?, isInfo, isVersion]

@[simp] theorem entry_created (name : String) :
    (called (.route name .createClient)).entry w past =
      { marks := [.created name]
        opened := (w.answer past (.route name .createClient)).result.toOption.toList } := by
  simp [entry, opened?, mark?, closed?, isInfo, isVersion]

end Event

namespace Journal

variable {w : World} {j j' : Journal}

def books (w : World) (j : Journal) : Books :=
  ⟨j.marks, j.opened w, j.closed, j.infos, j.versions⟩

theorem books_add (w : World) (j : Journal) (e : Event) :
    (j.add e).books w = j.books w ++ e.entry w j.events := by
  simp only [books, Event.entry, Books.append_def, Books.mk.injEq]
  refine ⟨?_, ?_, ?_, ?_, ?_⟩
  · cases h : e.mark? <;> simp [marks, h]
  · simp [opened, Event.openedIn_append, Event.openedIn]
  · cases h : e.closed? <;> simp [closed, h]
  · cases h : e.isInfo <;> simp [infos, h]
  · cases h : e.isVersion <;> simp [versions, h]

theorem books_afterCall (w : World) (j : Journal) (c : Call) :
    (j.afterCall w c).books w = j.books w ++ (Event.called c).entry w j.events :=
  books_add w j (.called c)

/-- Closing is all that is entered apart from the making of a connection. -/
theorem Grows.books (h : j.Apart j') (w : World) :
    ∃ clients, j'.books w = j.books w ++ { closed := clients } := by
  obtain ⟨es, he, hp⟩ := h
  have hnone : ∀ e ∈ es, e.isConnecting = false := fun e hmem => by simpa using hp e hmem
  have hmarks : es.filterMap Event.mark? = [] := by
    rw [List.filterMap_eq_nil_iff]
    exact fun e hmem => Event.mark?_eq_none (hnone e hmem)
  have hinfos : es.countP Event.isInfo = 0 := by
    rw [List.countP_eq_zero]
    exact fun e hmem => by simp [Event.isInfo_eq_false (hnone e hmem)]
  have hversions : es.countP Event.isVersion = 0 := by
    rw [List.countP_eq_zero]
    exact fun e hmem => by simp [Event.isVersion_eq_false (hnone e hmem)]
  refine ⟨es.filterMap Event.closed?, ?_⟩
  simp [Journal.books, Books.append_def, marks, opened, closed, infos, versions, he, hmarks,
    hinfos, hversions, Event.openedIn_append, Event.openedIn_eq_nil w _ hnone]

theorem books_of_aside (h : j.Aside j') (w : World) : j'.books w = j.books w := by
  obtain ⟨clients, hb⟩ := h.apart.books w
  obtain ⟨es, he, hp⟩ := h
  have hnone : es.filterMap Event.closed? = [] := by
    rw [List.filterMap_eq_nil_iff]
    exact fun e hmem => Event.closed?_of_isAside (hp e hmem)
  have hclosed : j'.closed = j.closed := by simp [Journal.closed, he, hnone]
  have hc : j'.closed = j.closed ++ clients := congrArg Books.closed hb
  rw [hclosed, List.self_eq_append_right] at hc
  rw [hb, hc, Books.append_nil]

end Journal

end Mooring
