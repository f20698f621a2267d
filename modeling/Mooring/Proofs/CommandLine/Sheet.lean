import Mooring.Journal
import Mooring.Proofs.Text.Markup

/-! Tables of texts in parts. Some parts are the program's own, and others come from elsewhere; a
table says the same with the foreign ones escaped exactly if there is no markup in any of them. -/

namespace Mooring.CommandLine

open Text

/-! ### Texts in parts -/

/-- A part of a text: one of the program's own, or one from elsewhere. -/
inductive Part where
  | own (text : String)
  | foreign (text : String)

/-- The parts of a text put together, each foreign one as `write` writes it. -/
def compose (write : List Char → List Char) (parts : List Part) : String :=
  String.ofList (parts.flatMap (fun
    | .own text => text.toList
    | .foreign text => write text.toList))

@[simp] theorem compose_nil (write : List Char → List Char) : compose write [] = "" := rfl

@[simp] theorem compose_own (write : List Char → List Char) (text : String) (parts : List Part) :
    compose write (.own text :: parts) = text ++ compose write parts := by
  rw [compose, List.flatMap_cons, String.ofList_append, String.ofList_toList, compose]

theorem compose_foreign (write : List Char → List Char) (text : String) (parts : List Part) :
    compose write (.foreign text :: parts) =
      String.ofList (write text.toList) ++ compose write parts := by
  rw [compose, List.flatMap_cons, String.ofList_append, compose]

@[simp] theorem compose_id_foreign (text : String) (parts : List Part) :
    compose id (.foreign text :: parts) = text ++ compose id parts := by
  rw [compose_foreign, id_eq, String.ofList_toList]

theorem length_compose_le (parts : List Part) :
    (compose id parts).length ≤ (compose escape parts).length := by
  induction parts with
  | nil => exact Nat.le_refl _
  | cons part parts ih =>
    cases part with
    | own text =>
      simp only [compose_own, String.length_append]
      exact Nat.add_le_add_left ih _
    | foreign text =>
      simp only [compose_foreign, id_eq, String.length_append, String.length_ofList]
      exact Nat.add_le_add (length_le_escape _) ih

/-- Escaping the foreign parts changes nothing exactly if there is no markup in any of them. -/
theorem compose_escape_iff {parts : List Part} :
    compose escape parts = compose id parts ↔
      ∀ text, .foreign text ∈ parts → Unmarked text.toList := by
  induction parts with
  | nil => simp
  | cons part parts ih =>
    cases part with
    | own text => simp [ih]
    | foreign text =>
      have hcons : (∀ text', .foreign text' ∈ .foreign text :: parts → Unmarked text'.toList) ↔
          Unmarked text.toList ∧ ∀ text', .foreign text' ∈ parts → Unmarked text'.toList := by
        simp
      rw [hcons, ← ih, ← escape_eq_self_iff, compose_foreign, compose_foreign, id_eq]
      constructor
      · intro h
        -- neither half can have become shorter, so the cut is at the same place
        have hchars := congrArg String.toList h
        simp only [String.toList_append, String.toList_ofList] at hchars
        have hlengths := congrArg List.length hchars
        simp only [List.length_append, String.length_toList] at hlengths
        have hfirst := length_le_escape text.toList
        have hrest := length_compose_le parts
        obtain ⟨htext, hparts⟩ := List.append_inj hchars (by rw [String.length_toList] at *; omega)
        exact ⟨htext, String.toList_inj.mp hparts⟩
      · rintro ⟨htext, hparts⟩
        rw [htext, hparts]

/-- A table of texts in parts. -/
structure Sheet where
  title : List Part
  headers : List String
  rows : List (List (List Part))

namespace Sheet

def shown (write : List Char → List Char) (sheet : Sheet) : Shown :=
  .table (compose write sheet.title) sheet.headers (sheet.rows.map (·.map (compose write)))

/-- Whether a foreign text stands in a table. -/
def Holds (sheet : Sheet) (text : String) : Prop :=
  ∃ parts ∈ sheet.title :: sheet.rows.flatten, .foreign text ∈ parts

theorem shown_escape_iff {sheet : Sheet} :
    sheet.shown escape = sheet.shown id ↔ ∀ text, sheet.Holds text → Unmarked text.toList := by
  have hrows : sheet.rows.map (·.map (compose escape)) = sheet.rows.map (·.map (compose id)) ↔
      ∀ row ∈ sheet.rows, ∀ parts ∈ row, compose escape parts = compose id parts := by
    simp only [List.map_inj_left]
  simp only [shown, Shown.table.injEq, hrows, true_and, compose_escape_iff, Holds]
  constructor
  · rintro ⟨htitle, hcells⟩ text ⟨parts, hparts, htext⟩
    rcases List.mem_cons.mp hparts with rfl | hparts
    · exact htitle text htext
    · obtain ⟨row, hrow, hparts⟩ := List.mem_flatten.mp hparts
      exact hcells row hrow parts hparts text htext
  · intro h
    refine ⟨fun text htext => h text ⟨_, List.mem_cons_self .., htext⟩, ?_⟩
    intro row hrow parts hparts text htext
    have hmem : parts ∈ sheet.rows.flatten := List.mem_flatten.mpr ⟨row, hrow, hparts⟩
    exact h text ⟨parts, List.mem_cons_of_mem _ hmem, htext⟩

end Sheet

end Mooring.CommandLine
