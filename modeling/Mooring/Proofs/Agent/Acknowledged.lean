import Mooring.Proofs.Agent.Reaper

/-! A reaper that is known to be started has acknowledged the session. The steps of a start that
succeeds are laid out from the image to the acknowledgement: the socket that is held in the end is
the last one that was connected, and every other one was closed before the next attempt. -/

namespace Mooring

namespace Text

theorem percentEncode_append (safe cs ds : List Char) :
    percentEncode safe (cs ++ ds) = percentEncode safe cs ++ percentEncode safe ds := by
  simp [percentEncode]

/-- Only blanks are taken off, at both ends. -/
theorem exists_of_trimBytes (bs : List UInt8) : ∃ front back,
    (∀ b ∈ front ++ back, isByteBlank b = true) ∧ bs = front ++ trimBytes bs ++ back := by
  have hfront := List.takeWhile_append_dropWhile (p := isByteBlank) (l := bs)
  have hback := List.takeWhile_append_dropWhile (p := isByteBlank)
    (l := (bs.dropWhile isByteBlank).reverse)
  refine ⟨bs.takeWhile isByteBlank,
    ((bs.dropWhile isByteBlank).reverse.takeWhile isByteBlank).reverse, fun b hb => ?_, ?_⟩
  · rcases List.mem_append.mp hb with hb | hb
    · exact List.all_eq_true.mp List.all_takeWhile b hb
    · exact List.all_eq_true.mp List.all_takeWhile b (List.mem_reverse.mp hb)
  · rw [trimBytes, List.append_assoc, ← List.reverse_append, hback, List.reverse_reverse, hfront]

end Text

namespace Reaper

variable {w : World} {host : String} {n : Int} {line : String} {steps : List Step}

/-- The line names both labels of the session in full. -/
theorem filterLine_eq (session : String) :
    filterLine session = "label=org.dockerlink=true&label=org.dockerlink.sessionId=" ++
      String.ofList (Text.percentEncode ['=', '.'] session.toList) ++ "\n" := by
  have howner : Text.percentEncode ['=', '.'] "org.dockerlink=true".toList =
    "org.dockerlink=true".toList := by decide
  have hsession : Text.percentEncode ['=', '.'] "org.dockerlink.sessionId=".toList =
    "org.dockerlink.sessionId=".toList := by decide
  have hfilters : Session.labelFilters (Session.labels session) =
    ["org.dockerlink=true", "org.dockerlink.sessionId=" ++ session] := rfl
  rw [filterLine, hfilters]
  simp only [List.map_cons, List.map_nil, Text.joinWith, String.toList_append,
    Text.percentEncode_append, howner, hsession]
  apply String.toList_injective
  simp

/-- A wait that ends with a port has found it at its last look. -/
theorem Waits.found_last {k : Client} {id : ResourceId} (h : Waits k id steps (.ok n)) :
    ∃ before ports, (∀ x ∈ before, Looks k id x) ∧ Publishes ports n ∧
      steps = before ++ [.asked (.client k (.reloadContainer id)) (.ok ()),
        .asked (.client k (.containerPorts id)) (.ok ports)] := by
  generalize hr : (.ok n : Except Fault Int) = r at h
  induction h with
  | found hports =>
    cases hr
    exact ⟨[], _, by simp, hports, rfl⟩
  | failed => cases hr
  | @again earlier rest r hlooks _ ih =>
    obtain ⟨before, ports, hbefore, hports, rfl⟩ := ih hr
    refine ⟨earlier ++ before, ports, ?_, hports, by rw [List.append_assoc]⟩
    intro x hx
    exact (List.mem_append.mp hx).elim (hlooks x) (hbefore x)

/-- An attempt in vain, with the rest after it: nothing was connected, or the socket that was is
closed. -/
inductive InVain (host : String) (n : Int) : List Step → Prop
  | unreached (problem : Problem) :
    InVain host n [.asked (.socket (.connect host n)) (.error problem),
      .asked (.sleep 500) (.ok ())]
  | dropped {socket : Socket} {talk : List Step} (h : ∀ x ∈ talk, Talks socket x) :
    InVain host n (.asked (.socket (.connect host n)) (.ok socket) :: (talk ++
      [.asked (.socket (.close socket)) (.ok ()), .asked (.sleep 500) (.ok ())]))

theorem Tries.inVain {reason : String} (h : Tries w host n line steps (.ok (.refused reason))) :
    InVain host n (steps ++ [.asked (.sleep 500) (.ok ())]) := by
  cases h with
  | unreached problem => exact .unreached problem
  | dropped h =>
    rw [List.cons_append, List.append_assoc]
    exact .dropped h

/-- Attempts to register that end with a socket are all in vain but the last. -/
theorem Registers.acknowledged_last {socket : Socket}
    (h : Registers w host n line steps (.ok socket)) :
    ∃ (attempts : List (List Step)) (answer : List UInt8),
      (∀ attempt ∈ attempts, InVain host n attempt) ∧
      Text.trimBytes answer = acknowledgement ∧
      steps = attempts.flatten ++
        .asked (.socket (.connect host n)) (.ok socket) :: acknowledging socket line answer := by
  generalize hr : (.ok socket : Except Fault Socket) = r at h
  induction h with
  | late | failed | restless => cases hr
  | acknowledged h =>
    cases hr
    cases h with
    | acknowledged hanswer => exact ⟨[], _, by simp, hanswer, rfl⟩
  | @again steps rest reason r h _ ih =>
    obtain ⟨attempts, answer, hattempts, hanswer, rfl⟩ := ih hr
    refine ⟨(steps ++ [.asked (.sleep 500) (.ok ())]) :: attempts, answer, ?_, hanswer, ?_⟩
    · exact List.forall_mem_cons.mpr ⟨h.inVain, hattempts⟩
    · simp

end Reaper

namespace Agent

open Mooring.Action Reaper

/-- A start of a reaper that succeeds runs a container, looks at its ports until the last look shows
the port, and makes attempts until one is acknowledged. The socket that is held then has sent the
whole line, has received the acknowledgement in one answer, waits without limit and has not been
closed. -/
theorem acknowledged_of_started {w : World} {agent agent' : Agent} {r : Reaper} {j j' : Journal}
    (hcleaner : agent.cleaner = .reaper r) (henabled : r.settings.reaperDisabled = false)
    (hidle : agent.started = false) (h : ensureStarted w agent j = (.ok (), agent', j')) :
    ∃ (opening : Step) (preparing : List Step) (id : ResourceId) (looking : List Step)
      (ports : Value) (n : Int) (attempts : List (List Step)) (socket : Socket)
      (front back : List UInt8) (closing : Step),
      agent' = { cleaner := .reaper { r with container := some id, socket := some socket },
                 started := true } ∧
      j'.steps w = j.steps w ++ ([opening] ++ preparing ++
        [.asked (.client r.client (.runContainer (Reaper.request r.settings w.session)))
          (.ok id)] ++ looking ++
        [.asked (.client r.client (.reloadContainer id)) (.ok ()),
         .asked (.client r.client (.containerPorts id)) (.ok ports)] ++ attempts.flatten ++
        [.asked (.socket (.connect r.host n)) (.ok socket),
         .asked (.socket (.send socket
           ("label=org.dockerlink=true&label=org.dockerlink.sessionId=" ++
             String.ofList (Text.percentEncode ['=', '.'] w.session.toList) ++ "\n"))) (.ok ()),
         .asked (.socket (.receive socket 16)) (.ok (front ++ [0x41, 0x43, 0x4b] ++ back)),
         .asked (.socket (.clearTimeout socket)) (.ok ())] ++ [closing]) ∧
      opening.IsLine ∧ closing.IsLine ∧ (∀ x ∈ preparing, Prepares r.client x) ∧
      (∀ x ∈ looking, Looks r.client id x) ∧ Publishes ports n ∧
      (∀ attempt ∈ attempts, InVain r.host n attempt) ∧
      ∀ b ∈ front ++ back, Text.isByteBlank b = true := by
  obtain ⟨_, hsteps, opening, rest, r', hopening, rfl, hstarts, rfl⟩ :=
    (ensureStarted_does hcleaner henabled hidle).run h
  cases hstarts with
  | @connected preparing rest id n r' hprepares hconnects level message fields =>
    cases hconnects with
    | @registered looked tried _ socket hwaits hregisters =>
      obtain ⟨looking, ports, hlooks, hports, rfl⟩ := hwaits.found_last
      obtain ⟨attempts, answer, hattempts, hanswer, rfl⟩ := hregisters.acknowledged_last
      obtain ⟨front, back, hblank, hbytes⟩ := Text.exists_of_trimBytes answer
      have hack : Text.trimBytes answer = [0x41, 0x43, 0x4b] := hanswer.trans (by decide +kernel)
      rw [hack] at hbytes
      refine ⟨opening, preparing, id, looking, ports, n, attempts, socket, front, back, _, rfl, ?_,
        hopening, .wrote level message fields, hprepares, hlooks, hports, hattempts, hblank⟩
      rw [hsteps, filterLine_eq, acknowledging, ← hbytes]
      simp only [List.cons_append, List.nil_append, List.append_assoc]
      rfl

/-- A reaper with a second of patience. -/
def patient : Agent where
  cleaner := .reaper
    { client := "client", settings := .plain, host := "localhost", patience := ⟨false, 1, 0⟩ }

/-- The patient agent after a first start in the slow world, which is in vain. -/
def wary : Agent := (ensureStarted World.slow patient {}).2.1

/-- The second start succeeds in the slow world, at its second attempt to register. -/
theorem acknowledged_slow : ∃ (r : Reaper) (agent' : Agent) (j' : Journal) (before : List Step)
    (attempts : List (List Step)) (id : ResourceId) (n : Int) (socket : Socket)
    (front back : List UInt8) (closing : Step),
    wary.cleaner = .reaper r ∧ r.settings.reaperDisabled = false ∧ wary.started = false ∧
    ensureStarted World.slow wary (ensureStarted World.slow patient {}).2.2 = (.ok (), agent', j') ∧
    agent' = { cleaner := .reaper { r with container := some id, socket := some socket },
               started := true } ∧
    j'.steps World.slow = before ++ (attempts.flatten ++
      [.asked (.socket (.connect r.host n)) (.ok socket),
       .asked (.socket (.send socket
         ("label=org.dockerlink=true&label=org.dockerlink.sessionId=" ++
           String.ofList (Text.percentEncode ['=', '.'] World.slow.session.toList) ++ "\n")))
         (.ok ()),
       .asked (.socket (.receive socket 16)) (.ok (front ++ [0x41, 0x43, 0x4b] ++ back)),
       .asked (.socket (.clearTimeout socket)) (.ok ())] ++ [closing]) ∧
    (∀ attempt ∈ attempts, InVain r.host n attempt) ∧
    ∀ b ∈ front ++ back, Text.isByteBlank b = true := by
  have hidle : wary.started = false := by decide +kernel
  have hreaper : (match wary.cleaner with
    | .reaper r => !r.settings.reaperDisabled
    | .sidecar _ => false) = true := by decide +kernel
  have hstarts : (ensureStarted World.slow wary
    (ensureStarted World.slow patient {}).2.2).1.toBool = true := by decide +kernel
  split at hreaper
  · next r hcleaner =>
    have henabled : r.settings.reaperDisabled = false := by simpa using hreaper
    rcases hrun : ensureStarted World.slow wary (ensureStarted World.slow patient {}).2.2 with
      ⟨_ | _, agent', j'⟩
    · rw [hrun] at hstarts
      cases hstarts
    · obtain ⟨opening, preparing, id, looking, ports, n, attempts, socket, front, back, closing,
        hagent, hsteps, -, -, -, -, -, hattempts, hblank⟩ :=
        acknowledged_of_started hcleaner henabled hidle hrun
      refine ⟨r, agent', j', (ensureStarted World.slow patient {}).2.2.steps World.slow ++
        ([opening] ++ preparing ++ [.asked (.client r.client (.runContainer
          (Reaper.request r.settings World.slow.session))) (.ok id)] ++ looking ++
          [.asked (.client r.client (.reloadContainer id)) (.ok ()),
           .asked (.client r.client (.containerPorts id)) (.ok ports)]),
        attempts, id, n, socket, front, back, closing, hcleaner, henabled, hidle, rfl, hagent, ?_,
        hattempts, hblank⟩
      rw [hsteps]
      simp only [List.append_assoc]
  · cases hreaper

end Agent

end Mooring
