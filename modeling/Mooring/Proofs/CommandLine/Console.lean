import Mooring.CommandLine
import Mooring.Proofs.Steps
import Mooring.Proofs.Text.Tags

/-! What a console can be relied on to show. It reads the brackets of styled lines and of tables as
tags, and may refuse a text in which a tag is closed that was not open. The line about a failure is
never of that kind, as its message is escaped; a table is one if a text in it is. -/

namespace Mooring

/-- Whether the markup of something for the console can be read. Plain text has none. -/
def Shown.WellMarked : Shown → Prop
  | .styled line => Text.WellMarked line.toList
  | .plain _ => True
  | .table title headers rows =>
    ∀ text ∈ title :: (headers ++ rows.flatten), Text.WellMarked text.toList

instance : (what : Shown) → Decidable what.WellMarked
  | .styled line => inferInstanceAs (Decidable (Text.WellMarked line.toList))
  | .plain _ => inferInstanceAs (Decidable True)
  | .table title headers rows =>
    inferInstanceAs (Decidable (∀ text ∈ title :: (headers ++ rows.flatten), _))

/-- The console shows whatever it is handed with markup that can be read, and what it raises of
anything else is no failure of the program's own. -/
structure World.Renders (w : World) : Prop where
  shows : ∀ past what, what.WellMarked → w.console past what = .ok ()
  foreign : ∀ past what failure, w.console past what ≠ .error (.failure failure)

theorem World.Renders.run_print {σ : Type} {w : World} (h : w.Renders) {what : Shown}
    (hwhat : what.WellMarked) (s : σ) (j : Journal) :
    Action.print what w s j = (.ok (), s, j.add (.shown what)) := by
  rw [Action.run_print, h.shows _ what hwhat]
  rfl

theorem World.Renders.not_refuses {w : World} (h : w.Renders) {what : Shown}
    (hwhat : what.WellMarked) (problem : Problem) : ¬ w.Refuses what problem := by
  rintro ⟨past, hrefused⟩
  rw [h.shows past what hwhat] at hrefused
  cases hrefused

/-- A console that refuses what has markup that cannot be read, and nothing else. -/
def strictConsole (_ : List Event) (what : Shown) : Except Problem Unit :=
  if what.WellMarked then .ok () else .error (.markup "closing tag doesn't match any open tag")

theorem isException_of_strictConsole (past : List Event) (what : Shown) (problem : Problem)
    (h : strictConsole past what = .error problem) : problem.isException = true := by
  unfold strictConsole at h
  split at h <;> cases h
  rfl

theorem World.renders_of_strictConsole {w : World} (h : w.console = strictConsole) :
    w.Renders := by
  refine ⟨fun past what hwhat => ?_, fun past what failure hfailure => ?_⟩
  · rw [h, strictConsole, if_pos hwhat]
  · rw [h, strictConsole] at hfailure
    split at hfailure <;> cases hfailure

namespace CommandLine

open Text

theorem wellMarked_failureLine {failure : Failure} {category : Category}
    (h : failure.category = .text category.label) :
    (Shown.styled (failureLine failure)).WellMarked := by
  have hopening : IsTag "[red]".toList := ⟨'r', ['e', 'd'], rfl, rfl, by decide, by decide⟩
  have hclosing : IsTag "[/red]".toList := ⟨'/', ['r', 'e', 'd'], rfl, rfl, by decide, by decide⟩
  have hlabel : '[' ∉ ("Error (" ++ category.label ++ "):").toList ∧
      '\\' ∉ ("Error (" ++ category.label ++ "):").toList := by
    cases category <;> decide
  have hline : (failureLine failure).toList =
      "[red]".toList ++ (("Error (" ++ category.label ++ "):").toList ++
        ("[/red]".toList ++ (' ' :: escape failure.message.toList))) := by
    simp [failureLine, h, Value.display]
  show pairUp [] (readTags false (failureLine failure).toList) = true
  rw [hline, readTags_tag_append hopening, readTags_plain_append hlabel.1 hlabel.2,
    readTags_tag_append hclosing, readTags_cons_of_ne (by decide) (by decide), readTags_escape]
  rfl

theorem wellMarked_natText (n : Nat) : WellMarked (Number.natText n).toList := by
  refine wellMarked_of_not_mem (fun hmem => ?_)
  rw [Number.natText, String.toList_ofList] at hmem
  have hdigit : Char.isDigit '[' = true :=
    Nat.isDigit_of_mem_toDigits (by decide) (by decide) hmem
  revert hdigit
  decide

/-- Of the table about a session, all but the name of the session can be read in any case. -/
theorem wellMarked_pruned {session : String} (h : WellMarked session.toList) (count : SweepCount) :
    (Shown.table ("Pruned session " ++ session) ["Resource", "Count"]
      (count.entries.map (fun (name, n) => [name, Number.natText n]))).WellMarked := by
  intro text htext
  rcases List.mem_cons.mp htext with rfl | htext
  · rw [String.toList_append]
    exact (wellMarked_plain_append (by decide) (by decide)).mpr h
  · rcases List.mem_append.mp htext with hheader | hcell
    · have hheaders : ∀ text ∈ ["Resource", "Count"], WellMarked text.toList := by decide
      exact hheaders text hheader
    · obtain ⟨row, hrow, hmem⟩ := List.mem_flatten.mp hcell
      obtain ⟨⟨name, n⟩, hentry, rfl⟩ := List.mem_map.mp hrow
      have hnames : ∀ name ∈ ["containers", "networks", "volumes", "images", "failed"],
          WellMarked name.toList := by decide
      rcases List.mem_cons.mp hmem with rfl | hmem
      · have hname : text ∈ count.entries.map (·.1) := List.mem_map_of_mem hentry
        exact hnames text hname
      · obtain rfl := List.mem_singleton.mp hmem
        exact wellMarked_natText n

end CommandLine

end Mooring
