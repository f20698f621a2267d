/-! Text in which tags in brackets are read as styles. `escape` writes any text so that none of
its brackets is read as a tag: a backslash goes in front of the tag, and the backslashes that
stand there already are doubled. -/

namespace Mooring.Text

/-- A character that may follow the bracket of a tag. -/
def startsTag (c : Char) : Bool := ('a' ≤ c && c ≤ 'z') || c == '#' || c == '/' || c == '@'

/-- Cuts behind the bracket that closes a tag; another opening bracket may not come first. -/
def closeTag? : List Char → Option (List Char × List Char)
  | [] => none
  | '[' :: _ => none
  | ']' :: cs => some ([']'], cs)
  | c :: cs => (closeTag? cs).map (fun (tag, rest) => (c :: tag, rest))

/-- Cuts a tag off the front of a text. -/
def takeTag? : List Char → Option (List Char × List Char)
  | '[' :: c :: cs =>
    if startsTag c then (closeTag? cs).map (fun (tag, rest) => ('[' :: c :: tag, rest)) else none
  | _ => none

theorem closeTag?_eq_some {cs tag rest : List Char} (h : closeTag? cs = some (tag, rest)) :
    cs = tag ++ rest := by
  induction cs generalizing tag with
  | nil => simp [closeTag?] at h
  | cons c cs ih =>
    unfold closeTag? at h
    split at h
    · simp at h
    · simp at h
    · next e =>
      obtain ⟨rfl, rfl⟩ := List.cons.inj e
      obtain ⟨rfl, rfl⟩ := Prod.mk.inj (Option.some.inj h)
      rfl
    · simp only [Option.map_eq_some_iff, Prod.mk.injEq, Prod.exists] at h
      obtain ⟨tag, rest', h, rfl, rfl⟩ := h
      simp_all

/-- A tag and what follows it are the whole text, and the tag is not empty. -/
theorem takeTag?_eq_some {cs tag rest : List Char} (h : takeTag? cs = some (tag, rest)) :
    cs = tag ++ rest ∧ tag ≠ [] := by
  unfold takeTag? at h
  split at h
  · split at h
    · simp only [Option.map_eq_some_iff, Prod.mk.injEq, Prod.exists] at h
      obtain ⟨tag, rest', h, rfl, rfl⟩ := h
      simp [closeTag?_eq_some h]
    · simp at h
  · simp at h

theorem length_of_takeTag? {cs tag rest : List Char} (h : takeTag? cs = some (tag, rest)) :
    rest.length < cs.length := by
  obtain ⟨rfl, hne⟩ := takeTag?_eq_some h
  have := List.length_pos_iff.2 hne
  simp only [List.length_append]
  omega

/-- Escapes the tags of a text; `slashes` stand right in front of it. -/
def escapeTags (slashes : List Char) : List Char → List Char
  | [] => slashes
  | c :: cs =>
    match _tag : takeTag? (c :: cs) with
    | some (tag, rest) => slashes ++ slashes ++ '\\' :: tag ++ escapeTags [] rest
    | none =>
      if c = '\\' then escapeTags (c :: slashes) cs else slashes ++ c :: escapeTags [] cs
  termination_by cs => cs.length
  decreasing_by
    · exact length_of_takeTag? _tag
    · exact Nat.lt_succ_self _
    · exact Nat.lt_succ_self _

/-- Doubles a single backslash at the end, which would reach beyond it. -/
def doubleLast (cs : List Char) : List Char :=
  match cs.reverse with
  | '\\' :: '\\' :: _ => cs
  | '\\' :: _ => cs ++ ['\\']
  | _ => cs

/-- Writes a text so that it is shown as it is. -/
def escape (cs : List Char) : List Char := doubleLast (escapeTags [] cs)

end Mooring.Text
