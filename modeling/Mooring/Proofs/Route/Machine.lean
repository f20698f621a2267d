import Mooring.Proofs.Route.Interrupt
import Mooring.Proofs.Steps
import Mooring.Proofs.Text.Trim

/-! The machine that a route is about. It is settled once, by the settings or by the first listing
that names one, and from then on every command is about it, whatever the route is told to do. -/

namespace Mooring

open Mooring.Action

/-- A command that was run, with its answer. -/
abbrev Ran := List String × Except Problem CommandResult

def Step.command? : Step → Option Ran
  | .asked (.runCommand words _) answer => some (words, answer)
  | _ => none

/-- The commands among the steps. -/
def commands (steps : List Step) : List Ran :=
  steps.filterMap Step.command?

theorem commands_append (steps more : List Step) :
    commands (steps ++ more) = commands steps ++ commands more :=
  List.filterMap_append

namespace Route

open Text

variable {α β : Type} {w : World} {r r' r'' : Route} {settings : Settings} {machine : Option String}
  {name : String} {words : List String} {answer : Except Problem CommandResult}
  {timeout : Int} {past : List Ran} {steps more : List Step}

/-! ### Listings -/

/-- The machine that a listing names: its first line that is not blank, trimmed. -/
def Lists (output name : String) : Prop :=
  ∃ front line rest, lines output.toList = front ++ line :: rest ∧
    (∀ blank ∈ front, trim blank = []) ∧ trim line ≠ [] ∧ name = String.ofList (trim line)

theorem firstListed?_eq_head? (cs : List Char) :
    firstListed? cs = (written (lines cs)).head?.map String.ofList := by
  rw [firstListed?, written, List.head?_filter]

theorem firstListed?_trim (cs : List Char) : firstListed? (trim cs) = firstListed? cs := by
  rw [firstListed?_eq_head?, firstListed?_eq_head?, written_lines_trim]

theorem firstListed?_eq_some_iff {output : String} :
    firstListed? output.toList = some name ↔ Lists output name := by
  simp only [firstListed?, Lists, Option.map_eq_some_iff, List.find?_eq_some_iff_append]
  constructor
  · rintro ⟨found, ⟨hfound, front, rest, hlines, hfront⟩, rfl⟩
    obtain ⟨front, tail, hsplit, rfl, htail⟩ := List.map_eq_append_iff.mp hlines
    obtain ⟨line, rest, rfl, rfl, rfl⟩ := List.map_eq_cons_iff.mp htail
    refine ⟨front, line, rest, hsplit, ?_, by simpa using hfound, rfl⟩
    intro blank hblank
    have hnone := hfront _ (List.mem_map_of_mem hblank)
    simpa using hnone
  · rintro ⟨front, line, rest, hsplit, hfront, hline, rfl⟩
    refine ⟨trim line, ⟨by simpa using hline, front.map trim, rest.map trim, ?_, ?_⟩, rfl⟩
    · rw [hsplit, List.map_append, List.map_cons]
    · intro blank hblank
      obtain ⟨l, hl, rfl⟩ := List.mem_map.mp hblank
      simpa using hfront l hl

/-! ### Commands -/

/-- The machine that the settings name. -/
def configured (settings : Settings) : Option String := settings.machineName.filter (· ≠ "")

/-- The command that lists the machines. -/
def listing : List String := [machineProgram, "ls", "-q"]

def urlOf (name : String) : List String := [machineProgram, "url", name]

def storeOf (name : String) : List String :=
  [machineProgram, "inspect", "--format",
    "\x7b\x7b.HostOptions.AuthOptions.StorePath\x7d\x7d", name]

def addressOf (name : String) : List String := [machineProgram, "ip", name]

/-- The commands about a machine. -/
def about (name : String) : List (List String) := [urlOf name, storeOf name, addressOf name]

theorem listing_not_mem_about (name : String) : listing ∉ about name := by
  simp [listing, about, urlOf, storeOf, addressOf]

/-- A listing that succeeds and names a machine. -/
def Names (answer : Except Problem CommandResult) (name : String) : Prop :=
  ∃ result, answer = .ok result ∧ result.code = 0 ∧ Lists result.output name

/-- The output of a command, trimmed. -/
def trimmed (result : CommandResult) : String := String.ofList (trim result.output.toList)

theorem names_iff {result : CommandResult} (hcode : result.code = 0) :
    Names (.ok result) name ↔ firstListed? (trimmed result).toList = some name := by
  rw [trimmed, String.toList_ofList, firstListed?_trim, firstListed?_eq_some_iff]
  constructor
  · rintro ⟨result, ⟨⟩, -, h⟩
    exact h
  · exact fun h => ⟨result, rfl, hcode, h⟩

/-! ### Courses -/

/-- The commands up to some moment, with the machine that is settled by then. -/
inductive Course (settings : Settings) : Option String → List Ran → Prop
  | start : Course settings none []
  | settled {past : List Ran} {name : String} (h : Course settings none past)
    (hname : configured settings = some name) : Course settings (some name) past
  | unnamed {past : List Ran} {answer : Except Problem CommandResult}
    (h : Course settings none past) (hnone : configured settings = none)
    (hanswer : ∀ name, ¬ Names answer name) : Course settings none (past ++ [(listing, answer)])
  | named {past : List Ran} {name : String} {answer : Except Problem CommandResult}
    (h : Course settings none past) (hnone : configured settings = none)
    (hanswer : Names answer name) : Course settings (some name) (past ++ [(listing, answer)])
  | known {past : List Ran} {name : String} {words : List String}
    {answer : Except Problem CommandResult} (h : Course settings (some name) past)
    (hwords : words ∈ about name) : Course settings (some name) (past ++ [(words, answer)])

theorem Course.of_configured (h : Course settings machine past)
    (hname : configured settings = some name) :
    (machine = none → past = []) ∧ (∀ other, machine = some other → other = name) ∧
      ∀ c ∈ past, c.1 ∈ about name := by
  induction h with
  | start => simp
  | settled h hname' ih =>
    obtain ⟨hpast, -, -⟩ := ih
    rw [hpast rfl, hname] at *
    simp_all
  | unnamed h hnone => simp [hname] at hnone
  | named h hnone => simp [hname] at hnone
  | known h hwords ih =>
    obtain ⟨-, hmachine, hall⟩ := ih
    obtain rfl := hmachine _ rfl
    refine ⟨nofun, hmachine, ?_⟩
    rw [List.forall_mem_append, List.forall_mem_singleton]
    exact ⟨hall, hwords⟩

/-- Where the settings name no machine, there are only listings at first, which name none. The first
that names one is the last, and all that follows is about that machine. -/
theorem Course.of_unconfigured (h : Course settings machine past)
    (hnone : configured settings = none) :
    ∃ failed, (∀ c ∈ failed, c.1 = listing ∧ ∀ name, ¬ Names c.2 name) ∧
      (machine = none ∧ past = failed ∨ ∃ name answer rest, machine = some name ∧
        past = failed ++ (listing, answer) :: rest ∧ Names answer name ∧
        ∀ c ∈ rest, c.1 ∈ Route.about name) := by
  induction h with
  | start => exact ⟨[], by simp, .inl ⟨rfl, rfl⟩⟩
  | settled h hname => simp [hnone] at hname
  | @unnamed past answer h _ hanswer ih =>
    obtain ⟨failed, hfailed, ⟨-, rfl⟩ | ⟨name, _, _, ⟨⟩, _⟩⟩ := ih
    refine ⟨past ++ [(listing, answer)], ?_, .inl ⟨rfl, rfl⟩⟩
    rw [List.forall_mem_append, List.forall_mem_singleton]
    exact ⟨hfailed, rfl, hanswer⟩
  | @named past name answer h _ hanswer ih =>
    obtain ⟨failed, hfailed, ⟨-, rfl⟩ | ⟨name, _, _, ⟨⟩, _⟩⟩ := ih
    exact ⟨past, hfailed, .inr ⟨name, answer, [], rfl, rfl, hanswer, by simp⟩⟩
  | @known past name words answer h hwords ih =>
    obtain ⟨failed, hfailed, ⟨⟨⟩, _⟩ | ⟨_, first, rest, ⟨⟩, rfl, hfirst, hrest⟩⟩ := ih
    refine ⟨failed, hfailed, .inr ⟨name, first, rest ++ [(words, answer)], rfl, ?_, hfirst, ?_⟩⟩
    · simp
    · rw [List.forall_mem_append, List.forall_mem_singleton]
      exact ⟨hrest, hwords⟩

/-! ### Advances -/

/-- How a route gets on by some steps: a settled machine stays, and the commands go on with the
course. -/
structure Advance (r : Route) (steps : List Step) (r' : Route) : Prop where
  way : r'.way = r.way
  settings : r'.settings = r.settings
  settled : ∀ name, r.machine = some name → r'.machine = some name
  course : ∀ past, Course r.settings r.machine past →
    Course r'.settings r'.machine (past ++ commands steps)

/-- Steps without a command. -/
theorem Advance.quiet (hsteps : commands steps = []) (hway : r'.way = r.way)
    (hsettings : r'.settings = r.settings) (hmachine : r'.machine = r.machine) :
    Advance r steps r' := by
  refine ⟨hway, hsettings, fun name hname => hmachine.trans hname, fun past h => ?_⟩
  rwa [hsteps, List.append_nil, hsettings, hmachine]

theorem Advance.trans (h : Advance r steps r') (h' : Advance r' more r'') :
    Advance r (steps ++ more) r'' := by
  refine ⟨h'.way.trans h.way, h'.settings.trans h.settings,
    fun name hname => h'.settled name (h.settled name hname), fun past hpast => ?_⟩
  rw [commands_append, ← List.append_assoc]
  exact h'.course _ (h.course past hpast)

/-- An action by which a route to a virtual machine advances, where it knows of the machine so
much. -/
def Advances (w : World) (known : Option String) (act : Action Route α) : Prop :=
  ∀ r : Route, r.way = .known .dockerMachine → (∀ name, known = some name → r.machine = some name) →
    Does w act r (fun steps _ r' => Advance r steps r')

namespace Advances

variable {known : Option String} {act : Action Route α} {next : α → Action Route β}

theorem pure (a : α) : Advances w known (Pure.pure a : Action Route α) :=
  fun _ _ _ => .pure (.quiet rfl rfl rfl rfl)

theorem get : Advances w known (get : Action Route Route) :=
  fun _ _ _ _ => ⟨[], (List.append_nil _).symm, Advance.quiet rfl rfl rfl rfl⟩

theorem fail (fault : Fault) : Advances w known (fail fault : Action Route α) :=
  fun _ _ _ => .fail (.quiet rfl rfl rfl rfl)

theorem log {level : Level} {message : String} {fields : Record Value} :
    Advances w known (log level message fields : Action Route Unit) :=
  fun _ _ _ => .log (.quiet rfl rfl rfl rfl)

theorem modify {f : Route → Route} (hway : ∀ r, (f r).way = r.way)
    (hsettings : ∀ r, (f r).settings = r.settings) (hmachine : ∀ r, (f r).machine = r.machine) :
    Advances w known (modify f) :=
  fun r _ _ => .change (.quiet rfl (hway r) (hsettings r) (hmachine r))

/-- A call that runs no command. -/
theorem call {c : Call} (h : ∀ answer, (Step.asked c answer).command? = none) :
    Advances w known (call c : Action Route c.Answer) :=
  fun _ _ _ => .call (fun answer _ => .quiet (List.filterMap_cons_none (h answer)) rfl rfl rfl)

theorem tell {c : Call} (h : ∀ answer, (Step.asked c answer).command? = none) :
    Advances w known (tell c : Action Route Unit) :=
  fun _ _ _ j =>
    ⟨_, j.steps_add w _, Advance.quiet (List.filterMap_cons_none (h _)) rfl rfl rfl⟩

theorem bind (h : Advances w known act) (hn : ∀ a, Advances w known (next a)) :
    Advances w known (act >>= next) := by
  intro r hway hknown
  refine (h r hway hknown).bind ?_ (fun _ _ _ h => h)
  intro steps a r' hsteps
  have hnext := hn a r' (hsteps.way.trans hway)
    (fun name hname => hsteps.settled name (hknown name hname))
  exact hnext.mono (fun _ _ _ h => hsteps.trans h)

theorem attempt (h : Advances w known act) : Advances w known (attempt act) :=
  fun r hway hknown j => h r hway hknown j

theorem ite {c : Prop} [Decidable c] {act act' : Action Route α} (h : Advances w known act)
    (h' : Advances w known act') : Advances w known (if c then act else act') := by
  split
  · exact h
  · exact h'

end Advances

/-! ### What a route does -/

/-- What comes of one command. -/
inductive Answered (words : List String) (timeout : Int) : List Step → Except Fault String → Prop
  | done {result : CommandResult} (hcode : result.code = 0) :
    Answered words timeout [.asked (.runCommand words timeout) (.ok result)]
      (.ok (trimmed result))
  | refused {result : CommandResult} {fault : Fault} (hcode : result.code ≠ 0)
    (hfault : fault.problem.isException = true) :
    Answered words timeout [.asked (.runCommand words timeout) (.ok result)] (.error fault)
  | troubled {problem : Problem} :
    Answered words timeout [.asked (.runCommand words timeout) (.error problem)]
      (.error (.of problem))

theorem runMachine_does {σ : Type} (settings : Settings) (arguments : List String) (s : σ) :
    Does w (runMachine settings arguments) s (fun steps result s' =>
      Answered (machineProgram :: arguments) settings.probeTimeout steps result ∧ s' = s) := by
  refine .ask (fun result _ => ?_) (fun problem _ => ⟨.troubled, rfl⟩)
  show Does w (if result.code ≠ 0 then _ else _) s _
  split
  · next hcode => exact .fail ⟨.refused hcode rfl, rfl⟩
  · next hcode => exact .pure ⟨.done (not_not.mp hcode), rfl⟩

theorem Answered.commands_eq {result : Except Fault String}
    (h : Answered words timeout steps result) : ∃ answer, commands steps = [(words, answer)] := by
  cases h <;> exact ⟨_, rfl⟩

/-- How the machine is come by: it is settled already, or the settings name it, or a listing. -/
inductive Finds (r : Route) : List Step → Except Fault String → Route → Prop
  | settled {name : String} (h : r.machine = some name) : Finds r [] (.ok name) r
  | configured {name : String} (h : r.machine = none) (hname : configured r.settings = some name) :
    Finds r [] (.ok name) { r with machine := some name }
  | listed {name listed : String} {steps : List Step} (h : r.machine = none)
    (hnone : Route.configured r.settings = none)
    (hlisting : Answered listing r.settings.probeTimeout steps (.ok listed))
    (hname : firstListed? listed.toList = some name) :
    Finds r steps (.ok name) { r with machine := some name }
  | unlisted {listed : String} {steps : List Step} {fault : Fault} (h : r.machine = none)
    (hnone : Route.configured r.settings = none)
    (hlisting : Answered listing r.settings.probeTimeout steps (.ok listed))
    (hname : firstListed? listed.toList = none) (hfault : fault.problem.isException = true) :
    Finds r steps (.error fault) r
  | failed {steps : List Step} {fault : Fault} (h : r.machine = none)
    (hnone : Route.configured r.settings = none)
    (hlisting : Answered listing r.settings.probeTimeout steps (.error fault)) :
    Finds r steps (.error fault) r

/-- The machine that is found is settled. -/
theorem settle_does {post : List Step → Except Fault String → Route → Prop} (r : Route)
    (h : post [] (.ok name) { r with machine := some name }) :
    Does w (modify (fun r => { r with machine := some name }) >>= fun _ => pure name) r post :=
  .afterChange (.pure h)

theorem machineName_does (r : Route) : Does w machineName r (Finds r) := by
  refine .afterGet ?_
  cases hmachine : r.machine with
  | some name => exact .pure (.settled hmachine)
  | none =>
    simp only
    cases hname : r.settings.machineName.filter (· ≠ "") with
    | some name => exact settle_does r (.configured hmachine hname)
    | none =>
      refine (runMachine_does r.settings ["ls", "-q"] r).bind ?_ ?_
      · rintro steps listed _ ⟨hlisting, rfl⟩
        cases hlisted : firstListed? listed.toList with
        | some name =>
          have hfinds := Finds.listed hmachine hname hlisting hlisted
          rw [← List.append_nil steps] at hfinds
          exact settle_does _ hfinds
        | none =>
          have hfault : (Fault.of (.machine .noMachines)).problem.isException = true := rfl
          have hfinds := Finds.unlisted hmachine hname hlisting hlisted hfault
          rw [← List.append_nil steps] at hfinds
          exact .fail hfinds
      · rintro steps fault _ ⟨hlisting, rfl⟩
        exact .failed hmachine hname hlisting

theorem Answered.not_names {fault : Fault} (h : Answered words timeout steps (.error fault)) :
    ∃ answer, commands steps = [(words, answer)] ∧ ∀ name, ¬ Names answer name := by
  cases h with
  | refused hcode _ =>
    refine ⟨_, rfl, ?_⟩
    rintro name ⟨result, ⟨⟩, hzero, -⟩
    exact hcode hzero
  | troubled =>
    refine ⟨_, rfl, ?_⟩
    rintro name ⟨result, ⟨⟩, -⟩

theorem Answered.names_iff {out : String} (h : Answered words timeout steps (.ok out)) :
    ∃ answer, commands steps = [(words, answer)] ∧
      ∀ name, Names answer name ↔ firstListed? out.toList = some name := by
  cases h with
  | done hcode => exact ⟨_, rfl, fun name => Route.names_iff hcode⟩

theorem Finds.advance {result : Except Fault String} (h : Finds r steps result r') :
    Advance r steps r' ∧ ∀ name, result = .ok name → r'.machine = some name := by
  cases h with
  | settled hmachine =>
    refine ⟨.quiet rfl rfl rfl rfl, ?_⟩
    rintro name ⟨⟩
    exact hmachine
  | configured hmachine hname =>
    refine ⟨⟨rfl, rfl, fun name h => by simp [hmachine] at h, fun past hpast => ?_⟩, ?_⟩
    · rw [hmachine] at hpast
      exact (List.append_nil past).symm ▸ hpast.settled hname
    · rintro name ⟨⟩
      rfl
  | listed hmachine hnone hlisting hname =>
    obtain ⟨answer, hsteps, hnames⟩ := hlisting.names_iff
    refine ⟨⟨rfl, rfl, fun name h => by simp [hmachine] at h, fun past hpast => ?_⟩, ?_⟩
    · rw [hmachine] at hpast
      rw [hsteps]
      exact hpast.named hnone ((hnames _).mpr hname)
    · rintro name ⟨⟩
      rfl
  | unlisted hmachine hnone hlisting hname _ =>
    obtain ⟨answer, hsteps, hnames⟩ := hlisting.names_iff
    refine ⟨⟨rfl, rfl, fun _ h => h, fun past hpast => ?_⟩, nofun⟩
    rw [hmachine] at hpast ⊢
    rw [hsteps]
    refine hpast.unnamed hnone (fun name h => ?_)
    rw [(hnames name).mp h] at hname
    cases hname
  | failed hmachine hnone hlisting =>
    obtain ⟨answer, hsteps, hnames⟩ := hlisting.not_names
    refine ⟨⟨rfl, rfl, fun _ h => h, fun past hpast => ?_⟩, nofun⟩
    rw [hmachine] at hpast ⊢
    rw [hsteps]
    exact hpast.unnamed hnone hnames

/-- Opens a client of the machine in use. -/
def openMachine (settings : Settings) : Action Route Client := do
  let name ← machineName
  let url ← runMachine settings ["url", name]
  log .debug "Using docker-machine" [("machine", .text name), ("url", .text url)]
  let tls ← machineTls
  call (.clientAt url settings.probeTimeout (some tls))

theorem openClient_does {post : List Step → Except Fault Client → Route → Prop}
    (hway : r.way = .known .dockerMachine) (h : Does w (openMachine r.settings) r post) :
    Does w openClient r post := by
  refine .afterGet (.afterRead ?_)
  rw [hway]
  exact h

/-- The address of the machine in use. -/
def machineAddress (settings : Settings) : Action Route (Option String) := do
  let name ← machineName
  let address ← runMachine settings ["ip", name]
  return some address

theorem findHost_does {post : List Step → Except Fault (Option String) → Route → Prop}
    (hway : r.way = .known .dockerMachine) (h : Does w (machineAddress r.settings) r post) :
    Does w findHost r post := by
  refine .afterGet (.afterRead ?_)
  rw [hway]
  exact h

namespace Advances

variable {known : Option String} {next : String → Action Route β}

theorem machineName : Advances w known machineName :=
  fun r _ _ => (machineName_does r).mono (fun _ _ _ h => h.advance.1)

/-- What follows when the machine has been asked for knows of it. -/
theorem afterName (h : ∀ name, Advances w (some name) (next name)) :
    Advances w known (Route.machineName >>= next) := by
  intro r hway _
  refine (machineName_does r).bind ?_ (fun _ _ _ h => h.advance.1)
  intro steps name r' hfinds
  obtain ⟨hadvance, hmachine⟩ := hfinds.advance
  have hnext := h name r' (hadvance.way.trans hway)
    (fun _ heq => (hmachine name rfl).trans heq)
  exact hnext.mono (fun _ _ _ h => hadvance.trans h)

/-- A command about the machine that is known of. -/
theorem runMachine {settings : Settings} {arguments : List String}
    (h : machineProgram :: arguments ∈ about name) :
    Advances w (some name) (runMachine settings arguments) := by
  intro r _ hknown
  refine (runMachine_does settings arguments r).mono ?_
  rintro steps result _ ⟨hanswered, rfl⟩
  obtain ⟨answer, hsteps⟩ := hanswered.commands_eq
  refine ⟨rfl, rfl, fun _ h => h, fun past hpast => ?_⟩
  rw [hknown name rfl] at hpast ⊢
  rw [hsteps]
  exact hpast.known h

theorem machineTls : Advances w known machineTls := by
  refine .afterName (fun name => .bind .get (fun r => ?_))
  refine .bind (.runMachine (by simp [about, storeOf])) (fun store => ?_)
  exact .bind (.call (fun _ => rfl)) (fun _ => .pure _)

theorem openMachine (settings : Settings) : Advances w known (openMachine settings) := by
  refine .afterName (fun name => .bind (.runMachine (by simp [about, urlOf])) (fun url => ?_))
  exact .bind .log (fun _ => .bind .machineTls (fun tls => .call (fun _ => rfl)))

theorem openClient : Advances w known openClient :=
  fun r hway hknown => openClient_does hway (openMachine r.settings r hway hknown)

theorem machineAddress (settings : Settings) : Advances w known (machineAddress settings) :=
  .afterName (fun name => .bind (.runMachine (by simp [about, addressOf])) (fun _ => .pure _))

theorem findHost : Advances w known findHost :=
  fun r hway hknown => findHost_does hway (machineAddress r.settings r hway hknown)

theorem closeQuietly (client : Client) : Advances w known (closeQuietly client) := by
  refine .bind (.attempt (.call (fun _ => rfl))) (fun result => ?_)
  cases result with
  | ok u => exact .pure _
  | error fault => exact .ite .log (.fail _)

theorem probe : Advances w known probe := by
  refine .bind .openClient (fun client => ?_)
  refine .bind (.attempt (.bind (.call (fun _ => rfl)) (fun _ => .findHost))) (fun result => ?_)
  cases result with
  | ok host =>
    refine .bind .get (fun r => .bind (.tell (fun _ => rfl)) (fun _ => ?_))
    exact .bind (.modify (fun _ => rfl) (fun _ => rfl) (fun _ => rfl)) (fun _ => .pure _)
  | error fault => exact .ite (.bind (.closeQuietly client) (fun _ => .fail _)) (.fail _)

theorem isApplicable : Advances w known isApplicable := by
  intro r hway _
  refine .afterGet (.afterRead ?_)
  rw [hway]
  exact .call (fun answer _ => .quiet rfl rfl rfl rfl)

theorem close : Advances w known close := by
  refine .bind .get (fun r => ?_)
  cases r.held with
  | none => exact .pure _
  | some client =>
    refine .bind (.closeQuietly client) (fun _ => ?_)
    exact .modify (fun _ => rfl) (fun _ => rfl) (fun _ => rfl)

end Advances

end Route

end Mooring
