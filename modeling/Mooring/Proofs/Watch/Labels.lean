import Mooring.Watch

/-! The labels on the side process's command line. Each is one argument after the option that
announces it; a label that cannot be read ends the reading, and labels that can be read stand in the
table as they were written. -/

namespace Mooring.Watch

open CommandLine

variable {text : String} {texts : List String}

/-- The arguments that give labels. -/
def labelArguments (texts : List String) : List String :=
  texts.flatMap (fun text => ["--label", text])

/-- A text that is no option, however it goes on. -/
def StartsPlain (text : String) : Prop := text.toList.head? ≠ some '-'

instance (text : String) : Decidable (StartsPlain text) :=
  inferInstanceAs (Decidable (_ ≠ _))

/-! ### Words -/

theorem readRole_label :
    readRole grammar "--label" = .ok (.valued labelOption .absent) := rfl

theorem readRole_plain (g : Grammar) (h : StartsPlain text) : readRole g text = .ok .plain := by
  unfold readRole
  split
  · next heq => exact absurd (by rw [heq]; rfl) h
  · rfl

def labelWords (texts : List String) : List Word :=
  texts.flatMap (fun text => [⟨"--label", .valued labelOption .absent⟩, ⟨text, .plain⟩])

theorem readWords_labels (h : ∀ text ∈ texts, StartsPlain text) :
    readWords grammar (labelArguments texts) = .ok (labelWords texts) := by
  induction texts with
  | nil => rfl
  | cons text texts ih =>
    obtain ⟨htext, htexts⟩ := List.forall_mem_cons.mp h
    have hseparator : text ≠ "--" := by
      rintro rfl
      exact htext rfl
    have hrest : readWords grammar (text :: labelArguments texts) =
        .ok (⟨text, .plain⟩ :: labelWords texts) := by
      rw [readWords, if_neg hseparator, readRole_plain grammar htext, ih htexts]
      rfl
    show readWords grammar ("--label" :: text :: labelArguments texts) = _
    rw [readWords, if_neg (by decide), readRole_label, hrest]
    rfl

/-! ### Reading -/

theorem collect_label (arguments : Arguments) (text : String) (words : List Word) :
    collect grammar arguments
        (⟨"--label", .valued labelOption .absent⟩ :: ⟨text, .plain⟩ :: words) =
      arguments.give labelOption text >>= fun arguments => collect grammar arguments words := by
  rw [collect]

theorem give_label {entry : String × String} (h : Session.readLabel text = some entry)
    (arguments : Arguments) :
    arguments.give labelOption text =
      .ok { arguments with values := arguments.values ++ [("--label", text)] } := by
  have hnone : labelOption.refusal text = none := by
    show labelRefusal text = none
    rw [labelRefusal, h]
  rw [Arguments.give, hnone]
  rfl

theorem give_refused (h : Session.readLabel text = none) (arguments : Arguments) :
    arguments.give labelOption text =
      .error (.usage (.valueRefused "--label" (Problem.badLabel text).message)) := by
  have hsome : labelOption.refusal text = some (Problem.badLabel text).message := by
    show labelRefusal text = _
    rw [labelRefusal, h]
  rw [Arguments.give, hsome]
  rfl

/-- Labels that can be read are taken in their order. -/
theorem collect_labels (h : ∀ text ∈ texts, (Session.readLabel text).isSome)
    (arguments : Arguments) :
    collect grammar arguments (labelWords texts) = .ok { arguments with
      values := arguments.values ++ texts.map (fun text => ("--label", text)) } := by
  induction texts generalizing arguments with
  | nil =>
    show collect grammar arguments [] = _
    rw [collect, List.map_nil, List.append_nil]
  | cons text texts ih =>
    obtain ⟨htext, htexts⟩ := List.forall_mem_cons.mp h
    obtain ⟨entry, hentry⟩ := Option.isSome_iff_exists.mp htext
    show collect grammar arguments (_ :: _ :: labelWords texts) = _
    rw [collect_label, give_label hentry]
    show collect grammar _ (labelWords texts) = _
    rw [ih htexts, List.append_assoc]
    rfl

/-- The first label that cannot be read ends the reading. -/
theorem collect_refused (h : ∃ text ∈ texts, Session.readLabel text = none)
    (arguments : Arguments) :
    ∃ text ∈ texts, collect grammar arguments (labelWords texts) =
      .error (.usage (.valueRefused "--label" (Problem.badLabel text).message)) := by
  induction texts generalizing arguments with
  | nil => simp at h
  | cons text texts ih =>
    show ∃ text' ∈ text :: texts, collect grammar arguments (_ :: _ :: labelWords texts) = _
    rw [collect_label]
    cases htext : Session.readLabel text with
    | none =>
      rw [give_refused htext]
      exact ⟨text, List.mem_cons_self .., rfl⟩
    | some entry =>
      -- this label is taken, so the one that is refused is among the rest
      have hlater : ∃ text' ∈ texts, Session.readLabel text' = none := by
        obtain ⟨text', hmem, hnone⟩ := h
        rcases List.mem_cons.mp hmem with rfl | hmem
        · rw [htext] at hnone
          cases hnone
        · exact ⟨text', hmem, hnone⟩
      obtain ⟨text', hmem, hcollect⟩ := ih hlater
        { arguments with values := arguments.values ++ [("--label", text)] }
      rw [give_label htext]
      exact ⟨text', List.mem_cons_of_mem _ hmem, hcollect⟩

/-! ### The table -/

/-- A label that can be read: there is a key in front of an `=`. -/
def IsLabel (text : String) : Prop := '=' ∈ text.toList ∧ text.toList.head? ≠ some '='

instance (text : String) : Decidable (IsLabel text) :=
  inferInstanceAs (Decidable (_ ∧ _))

/-- The key of a label. -/
def keyOf (text : String) : String := String.ofList (Text.before '=' text.toList)

theorem readLabel_eq_none (h : ¬ IsLabel text) : Session.readLabel text = none := by
  rw [Session.readLabel]
  cases hcut : Text.cutFirst '=' text.toList with
  | none => rfl
  | some parts =>
    obtain ⟨key, value⟩ := parts
    obtain ⟨htext, hkey⟩ := Text.cutFirst_eq_some hcut
    cases key with
    | nil => rfl
    | cons c key =>
      refine absurd ⟨by simp [htext], fun hhead => ?_⟩ h
      rw [htext] at hhead
      exact hkey (Option.some.inj hhead ▸ List.mem_cons_self ..)

/-- A label that can be read is its key, an `=` and its value. -/
theorem readLabel_eq_some (h : IsLabel text) :
    ∃ value, Session.readLabel text = some (keyOf text, value) ∧
      keyOf text ++ "=" ++ value = text := by
  cases hcut : Text.cutFirst '=' text.toList with
  | none => exact absurd h.1 (Text.cutFirst_eq_none_iff.mp hcut)
  | some parts =>
    obtain ⟨key, value⟩ := parts
    obtain ⟨htext, -⟩ := Text.cutFirst_eq_some hcut
    have hkey : keyOf text = String.ofList key := by
      rw [keyOf, Text.before_of_cutFirst hcut]
    refine ⟨String.ofList value, ?_, ?_⟩
    · rw [Session.readLabel, hcut, hkey]
      cases key with
      | nil => exact absurd (by rw [htext]; rfl) h.2
      | cons c key => rfl
    · apply String.toList_injective
      rw [hkey, htext]
      simp

/-- The labels as a table, if no two have the same key. -/
def labelTable (texts : List String) : Record String := texts.filterMap Session.readLabel

theorem labelTable_cons {value : String}
    (h : Session.readLabel text = some (keyOf text, value)) (texts : List String) :
    labelTable (text :: texts) = (keyOf text, value) :: labelTable texts :=
  List.filterMap_cons_some h

theorem keys_labelTable (h : ∀ text ∈ texts, IsLabel text) :
    (labelTable texts).map (·.1) = texts.map keyOf := by
  induction texts with
  | nil => rfl
  | cons text texts ih =>
    obtain ⟨htext, htexts⟩ := List.forall_mem_cons.mp h
    obtain ⟨value, hread, -⟩ := readLabel_eq_some htext
    rw [labelTable_cons hread, List.map_cons, List.map_cons, ih htexts]

theorem labelTable_joined (h : ∀ text ∈ texts, IsLabel text) :
    (labelTable texts).map (fun (key, value) => key ++ "=" ++ value) = texts := by
  induction texts with
  | nil => rfl
  | cons text texts ih =>
    obtain ⟨htext, htexts⟩ := List.forall_mem_cons.mp h
    obtain ⟨value, hread, hjoined⟩ := readLabel_eq_some htext
    rw [labelTable_cons hread, List.map_cons, ih htexts]
    exact congrArg (· :: texts) hjoined

/-! ### The command line -/

theorem readArguments_labels (h : ∀ text ∈ texts, StartsPlain text) :
    readArguments grammar (labelArguments texts) =
      collect grammar {} (labelWords texts) >>= requireOperand grammar := by
  rw [readArguments, readWords_labels h]
  rfl

theorem readLabels_refused (h : ∀ text ∈ texts, StartsPlain text)
    (hr : ∃ text ∈ texts, ¬ IsLabel text) :
    ∃ text ∈ texts, readLabels (labelArguments texts) =
      .error (.usage (.valueRefused "--label" (Problem.badLabel text).message)) := by
  obtain ⟨text, hmem, htext⟩ := hr
  obtain ⟨text', hmem', hcollect⟩ := collect_refused ⟨text, hmem, readLabel_eq_none htext⟩ {}
  refine ⟨text', hmem', ?_⟩
  rw [readLabels, readArguments_labels h, hcollect]
  rfl

/-- Where every label can be read, what counts is the table that they make. -/
theorem readLabels_of_labels (h : ∀ text ∈ texts, StartsPlain text)
    (hlabel : ∀ text ∈ texts, IsLabel text) (hkeys : (texts.map keyOf).Nodup) :
    readLabels (labelArguments texts) =
      if texts.isEmpty then .error (.usage .noLabel) else .ok (labelTable texts) := by
  have hread : ∀ text ∈ texts, (Session.readLabel text).isSome := by
    intro text hmem
    obtain ⟨value, hvalue, -⟩ := readLabel_eq_some (hlabel text hmem)
    rw [hvalue]
    rfl
  have htable : Record.ofPairs ((texts.map (fun text => ("--label", text))).filterMap
      (fun given => Session.readLabel given.2)) = labelTable texts := by
    rw [List.filterMap_map]
    exact Record.ofPairs_of_nodup ((keys_labelTable hlabel).symm ▸ hkeys)
  have hempty : (labelTable texts).isEmpty = texts.isEmpty := by
    rw [← List.isEmpty_map, keys_labelTable hlabel, List.isEmpty_map]
  have hlabels : readLabels (labelArguments texts) =
      let labels := Record.ofPairs ((texts.map (fun text => ("--label", text))).filterMap
        (fun given => Session.readLabel given.2))
      if labels.isEmpty then .error (.usage .noLabel) else .ok labels := by
    rw [readLabels, readArguments_labels h, collect_labels hread]
    rfl
  simp only [hlabels, htable, hempty]

end Mooring.Watch
