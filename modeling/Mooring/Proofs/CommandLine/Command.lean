import Mooring.Proofs.CommandLine.Release
import Mooring.Proofs.Helper.Creation

/-! The command of a run. Behind the first `--` everything belongs to the command, but for every
other `--`: the helper container gets the command without any of them. -/

namespace Mooring.CommandLine

open Connection Mooring.Action

variable {w : World}

/-! ### The words -/

/-- Every argument as a word that is no option. -/
def plainWords (arguments : List String) : List Word :=
  arguments.map (fun text => ⟨text, .plain⟩)

theorem texts_plainWords (arguments : List String) : texts (plainWords arguments) = arguments := by
  rw [texts, plainWords, List.map_map]
  exact List.map_id _

/-- Words that are an operand as a whole. -/
theorem collect_of_takeOperand {g : Grammar} {text : String} {role : Role} {words : List Word}
    {taken : List String} (hrole : role = .plain ∨ role = .separator)
    (h : takeOperand g.operand (⟨text, role⟩ :: words) = some (taken, [])) :
    collect g {} (⟨text, role⟩ :: words) = .ok { operand := some taken } := by
  have htake : Arguments.takeOperand? {} g.operand (⟨text, role⟩ :: words) = some (taken, []) := h
  rw [collect]
  rcases hrole with rfl | rfl
  all_goals
    simp only
    split
    · next found =>
      cases htake.symm.trans found
      rw [collect]
    · next found => cases htake.symm.trans found

theorem readArguments_program (words : List String) :
    readArguments programGrammar ("run" :: "--" :: words) =
      .ok { operand := some ("run" :: "--" :: words) } := by
  have hwords : readWords programGrammar ("run" :: "--" :: words) =
      .ok (⟨"run", .plain⟩ :: ⟨"--", .separator⟩ :: plainWords words) := rfl
  have htake : takeOperand programGrammar.operand
      (⟨"run", .plain⟩ :: ⟨"--", .separator⟩ :: plainWords words) =
        some ("run" :: "--" :: texts (plainWords words), []) := rfl
  rw [texts_plainWords] at htake
  have hcollect := collect_of_takeOperand (.inl rfl) htake
  rw [readArguments, hwords]
  exact congrArg (· >>= requireOperand programGrammar) hcollect

theorem readArguments_run (words : List String) :
    readArguments runGrammar ("--" :: words) = .ok { operand := some ("--" :: words) } := by
  have hwords : readWords runGrammar ("--" :: words) =
      .ok (⟨"--", .separator⟩ :: plainWords words) := rfl
  have htake : takeOperand runGrammar.operand (⟨"--", .separator⟩ :: plainWords words) =
      some ("--" :: texts (plainWords words), []) := rfl
  rw [texts_plainWords] at htake
  have hcollect := collect_of_takeOperand (.inr rfl) htake
  rw [readArguments, hwords]
  exact congrArg (· >>= requireOperand runGrammar) hcollect

/-- All that comes behind the first `--` is the command, but for every other `--`. -/
theorem readRequest_run (words : List String) :
    readRequest ("run" :: "--" :: words) =
      match commandWords words with
      | [] => .error (.usage .nothingToRun)
      | command => .ok (.run command) := by
  have hcommand : readCommand "run" ("--" :: words) = .ok (.run (commandWords words), []) := by
    show (readArguments runGrammar ("--" :: words) >>= _) = _
    rw [readArguments_run]
    rfl
  rw [readRequest, readArguments_program]
  show (readCommand "run" ("--" :: words) >>= _) = _
  rw [hcommand]
  cases commandWords words <;> rfl

/-! ### The run -/

variable {c c₁ : Connection} {j j₁ : Journal} {k : Client} {command : List String}

/-- The helper container in which a command is carried out. -/
def helperFor (w : World) (image : String) (command : List String) : HelperSpec :=
  { HelperSpec.ofImage w.session image with command := .ofTexts command }

theorem command_helperFor (w : World) (image : String) (command : List String) :
    (helperFor w image command).request.get? "command" = some (.ofTexts command) :=
  Record.get?_put_self ..

/-- What is left of a run once there is a client and an image. -/
def runWith (client : Client) (spec : HelperSpec) : Action Connection Value := do
  let (code, output) ← withHelper client spec (collectOutput client)
  print (.plain output)
  return code

theorem runWith_does (client : Client) (spec : HelperSpec) (hc : c.Idle) :
    Does w (runWith client spec) c (fun steps _ c' =>
      steps.filterMap Step.creation? = [(client, spec.request)] ∧ c'.Idle) := by
  have hwork (id : ResourceId) : Takes w .uncreating Idle (collectOutput client id) :=
    (takes_collectOutput client id).mono (fun _ => uncreating_of_ordinary)
  refine (withHelper_does client spec hwork hc).bind ?_ (fun _ _ _ => id)
  rintro steps ⟨code, output⟩ c' ⟨hsteps, hc'⟩
  have hmore (rest : List Step) (hrest : rest.filterMap Step.creation? = []) :
      (steps ++ rest).filterMap Step.creation? = [(client, spec.request)] := by
    rw [List.filterMap_append, hsteps, hrest]
    rfl
  exact .afterPrint (.pure ⟨hmore _ rfl, hc'⟩) (fun _ _ => ⟨hmore _ rfl, hc'⟩)

theorem carryOut_of_ensured {j₂ : Journal} (command : List String)
    (hclient : Connection.client w c j = (.ok k, c₁, j₁))
    (hensure : ensureImage k c₁.settings.tinyImage w c₁ j₁ = (.ok (), c₁, j₂)) :
    carryOut (.run command) w c j =
      runWith k (helperFor w c₁.settings.tinyImage command) w c₁ j₂ := by
  have hinside : runInside (modify (fun spec => { spec with command := .ofTexts command }))
      collectOutput w c j =
        withHelper k (helperFor w c₁.settings.tinyImage command) (collectOutput k) w c₁ j₂ :=
    runInside_of_client hclient hensure rfl collectOutput
  rw [carryOut, run, runWith, run_bind, run_bind, hinside]

/-- From the client on, one helper container is asked for: the command's. -/
theorem creation_of_carryOut (hc : c.Idle) (hclient : Connection.client w c j = (.ok k, c₁, j₁))
    (hensure : (ensureImage k c₁.settings.tinyImage w c₁ j₁).1 = .ok ()) :
    ∃ ended c₂ j₂ steps, carryOut (.run command) w c j = (ended, c₂, j₂) ∧
      j₂.steps w = j₁.steps w ++ steps ∧
      steps.filterMap Step.creation? =
        [(k, (helperFor w c₁.settings.tinyImage command).request)] ∧
      c₂.Idle := by
  obtain ⟨-, -, -, hidle⟩ := (takes_client c hc).run hclient
  obtain ⟨ensured, j₂, hensured, -⟩ := ensureImage_cases w k c₁.settings.tinyImage c₁ j₁
  obtain rfl : ensured = .ok () := by rw [← hensure, hensured]
  obtain ⟨before, hbefore, hordinary, -⟩ :=
    (takes_ensureImage k c₁.settings.tinyImage c₁ hidle).run hensured
  have hcarried := carryOut_of_ensured command hclient hensured
  rcases hrun : runWith k (helperFor w c₁.settings.tinyImage command) w c₁ j₂ with ⟨ended, c₂, j₃⟩
  obtain ⟨steps, hsteps, hcreated, hidle'⟩ := (runWith_does _ _ hidle).run hrun
  refine ⟨ended, c₂, j₃, before ++ steps, hcarried.trans hrun, ?_, ?_, hidle'⟩
  · rw [hsteps, hbefore, List.append_assoc]
  · rw [List.filterMap_append, hcreated, creations_of_uncreating (uncreating_of_ordinary hordinary)]
    rfl

theorem uncreating_of_showing {steps : List Step} (h : ∀ x ∈ steps, isShowing x = true) :
    Stretch.uncreating.holds steps := by
  intro x hx
  have hshowing := h x hx
  cases x with
  | showed what answer => rfl
  | asked _ _ | wrote _ _ _ => cases hshowing

/-- So is it of a whole run: after the command's container none is asked for. -/
theorem creation_of_execute {arguments : List String} {settings : Settings}
    {candidates : Option (List Route)} (hread : readRequest arguments = .ok (.run command))
    (hlogging : (w.answer j.events .setUpLogging).result = .ok ())
    (hclient : Connection.client w { settings, candidates } (j.afterCall w .setUpLogging) =
      (.ok k, c₁, j₁))
    (hensure : (ensureImage k c₁.settings.tinyImage w c₁ j₁).1 = .ok ()) :
    ∃ result c' j' steps, execute arguments w { settings, candidates } j = (result, c', j') ∧
      j'.steps w = j₁.steps w ++ steps ∧
      steps.filterMap Step.creation? =
        [(k, (helperFor w c₁.settings.tinyImage command).request)] := by
  obtain ⟨ended, c₂, j₂, before, hcarried, hbefore, hcreated, hidle⟩ :=
    creation_of_carryOut (show Idle { settings, candidates } from rfl) hclient hensure
  obtain ⟨answered, j₃, told, hanswer, -, htold, hshowing, -⟩ := answer_run hcarried
  have hexecute := execute_of_answered hread hlogging hanswer
  rcases hrun : execute arguments w { settings, candidates } j with ⟨result, c', j'⟩
  obtain ⟨after, hafter, hordinary, -⟩ :=
    (takes_finish answered c₂ hidle).run (hexecute.symm.trans hrun)
  refine ⟨result, c', j', before ++ (told ++ after), rfl, ?_, ?_⟩
  · rw [hafter, htold, hbefore, List.append_assoc, List.append_assoc]
  · have hrest := Stretch.uncreating.append (uncreating_of_showing hshowing)
      (uncreating_of_ordinary hordinary)
    rw [List.filterMap_append, hcreated, creations_of_uncreating hrest]
    rfl

theorem ofTexts_injective {words words' : List String}
    (h : Value.ofTexts words = Value.ofTexts words') : words = words' := by
  have htexts : words.map Value.text = words'.map Value.text := Value.list.inj h
  exact List.map_injective_iff.mpr (fun _ _ => Value.text.inj) htexts

theorem commandWords_eq_iff {words : List String} : commandWords words = words ↔ "--" ∉ words := by
  simp only [commandWords, List.filter_eq_self, decide_eq_true_eq]
  exact ⟨fun h hmem => h _ hmem rfl, fun h text hmem htext => h (htext ▸ hmem)⟩

theorem readRequest_of_words {words : List String} (h : ∃ text ∈ words, text ≠ "--") :
    readRequest ("run" :: "--" :: words) = .ok (.run (commandWords words)) := by
  obtain ⟨text, hmem, htext⟩ := h
  have hkept : text ∈ commandWords words := List.mem_filter.mpr ⟨hmem, decide_eq_true htext⟩
  rw [readRequest_run]
  cases hwords : commandWords words with
  | nil => rw [hwords] at hkept; cases hkept
  | cons first rest => rfl

/-- A run behind `run --` that comes to a client and an image asks for one helper container, whose
command is what stands behind, in order, without any `--`. This is all that stands behind exactly if
there is no other `--` among it. -/
theorem command_of_execute {words : List String} (hwords : ∃ text ∈ words, text ≠ "--")
    {settings : Settings} {candidates : Option (List Route)}
    (hlogging : (w.answer j.events .setUpLogging).result = .ok ())
    (hclient : Connection.client w { settings, candidates } (j.afterCall w .setUpLogging) =
      (.ok k, c₁, j₁))
    (hensure : (ensureImage k c₁.settings.tinyImage w c₁ j₁).1 = .ok ()) :
    ∃ result c' j' steps request,
      execute ("run" :: "--" :: words) w { settings, candidates } j = (result, c', j') ∧
      j'.steps w = j₁.steps w ++ steps ∧ steps.filterMap Step.creation? = [(k, request)] ∧
      request.get? "command" = some (.ofTexts (words.filter (· ≠ "--"))) ∧
      (request.get? "command" = some (.ofTexts words) ↔ "--" ∉ words) := by
  obtain ⟨result, c', j', steps, hrun, hsteps, hcreated⟩ :=
    creation_of_execute (readRequest_of_words hwords) hlogging hclient hensure
  have hcommand := command_helperFor w c₁.settings.tinyImage (commandWords words)
  refine ⟨result, c', j', steps, _, hrun, hsteps, hcreated, hcommand, ?_⟩
  rw [hcommand, ← commandWords_eq_iff]
  exact ⟨fun h => ofTexts_injective (Option.some.inj h), fun h => by rw [h]⟩

theorem command_clutching : (∃ text ∈ ["echo", "hello"], text ≠ "--") ∧
    ∃ c₁ j₁, Connection.client clutchingWorld fresh
        (Journal.afterCall {} clutchingWorld .setUpLogging) = (.ok "own", c₁, j₁) ∧
      (ensureImage "own" c₁.settings.tinyImage clutchingWorld c₁ j₁).1 = .ok () ∧
      ∃ result c' j' steps request,
        execute ["run", "--", "echo", "hello"] clutchingWorld fresh {} = (result, c', j') ∧
        j'.steps clutchingWorld = j₁.steps clutchingWorld ++ steps ∧
        steps.filterMap Step.creation? = [("own", request)] ∧
        request.get? "command" = some (.ofTexts ["echo", "hello"]) := by
  have hwords : ∃ text ∈ ["echo", "hello"], text ≠ "--" := by decide
  obtain ⟨c₁, j₁, hclient⟩ :=
    client_clutching (Journal.afterCall {} clutchingWorld .setUpLogging)
  obtain ⟨result, c', j', steps, request, hrun, hsteps, hcreated, hcommand, -⟩ :=
    command_of_execute hwords rfl hclient rfl
  exact ⟨hwords, c₁, j₁, hclient, rfl, result, c', j', steps, request, hrun, hsteps, hcreated,
    hcommand⟩

/-- A command that needs its `--` does not get it. -/
theorem command_shortened :
    ∃ c₁ j₁ result c' j' steps request,
      Connection.client clutchingWorld fresh
        (Journal.afterCall {} clutchingWorld .setUpLogging) = (.ok "own", c₁, j₁) ∧
      execute ["run", "--", "git", "log", "--", "file"] clutchingWorld fresh {} =
        (result, c', j') ∧
      j'.steps clutchingWorld = j₁.steps clutchingWorld ++ steps ∧
      steps.filterMap Step.creation? = [("own", request)] ∧
      request.get? "command" = some (.ofTexts ["git", "log", "file"]) ∧
      request.get? "command" ≠ some (.ofTexts ["git", "log", "--", "file"]) := by
  have hread : readRequest ["run", "--", "git", "log", "--", "file"] =
      .ok (.run ["git", "log", "file"]) := readRequest_of_words (by decide)
  obtain ⟨c₁, j₁, hclient⟩ :=
    client_clutching (Journal.afterCall {} clutchingWorld .setUpLogging)
  obtain ⟨result, c', j', steps, hrun, hsteps, hcreated⟩ :=
    creation_of_execute hread rfl hclient rfl
  have hcommand := command_helperFor clutchingWorld c₁.settings.tinyImage ["git", "log", "file"]
  refine ⟨c₁, j₁, result, c', j', steps, _, hclient, hrun, hsteps, hcreated, hcommand, ?_⟩
  rw [hcommand]
  intro h
  have hwords := ofTexts_injective (Option.some.inj h)
  revert hwords
  decide

end Mooring.CommandLine
