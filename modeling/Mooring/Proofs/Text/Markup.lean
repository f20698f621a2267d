import Mooring.Text.Markup

/-! Texts that escaping leaves alone: those in which nothing can be taken for a tag, and in which no
backslash stands alone at the end. Every other text grows. -/

namespace Mooring.Text

/-! ### Tags -/

/-- A tag: a bracket, a character that may begin one, and all up to the first closing bracket. -/
def IsTag (tag : List Char) : Prop :=
  ∃ c body, tag = '[' :: c :: (body ++ [']']) ∧ startsTag c = true ∧ '[' ∉ body ∧ ']' ∉ body

/-- A text in which a tag stands somewhere. -/
def HasTag (cs : List Char) : Prop := ∃ l tag r, cs = l ++ (tag ++ r) ∧ IsTag tag

theorem closeTag?_append {body : List Char} (hopen : '[' ∉ body) (hclose : ']' ∉ body)
    (r : List Char) : closeTag? (body ++ ']' :: r) = some (body ++ [']'], r) := by
  induction body with
  | nil => rfl
  | cons c body ih =>
    rw [List.mem_cons, not_or] at hopen hclose
    rw [List.cons_append, closeTag?]
    · rw [ih hopen.2 hclose.2]
      rfl
    · exact fun h => hopen.1 h.symm
    · exact fun h => hclose.1 h.symm

/-- What is cut off as the rest of a tag closes with the first bracket. -/
theorem exists_of_closeTag? {cs tag r : List Char} (h : closeTag? cs = some (tag, r)) :
    ∃ body, tag = body ++ [']'] ∧ cs = body ++ ']' :: r ∧ '[' ∉ body ∧ ']' ∉ body := by
  fun_induction closeTag? cs generalizing tag with
  | case1 => cases h
  | case2 cs => cases h
  | case3 cs =>
    cases h
    exact ⟨[], rfl, rfl, List.not_mem_nil, List.not_mem_nil⟩
  | case4 c cs hopen hclose ih =>
    obtain ⟨⟨tag', r'⟩, hcut, h⟩ := Option.map_eq_some_iff.mp h
    cases h
    obtain ⟨body, rfl, rfl, hopen', hclose'⟩ := ih hcut
    refine ⟨c :: body, rfl, rfl, ?_, ?_⟩
    · exact List.not_mem_cons_of_ne_of_not_mem (fun h => hopen h.symm) hopen'
    · exact List.not_mem_cons_of_ne_of_not_mem (fun h => hclose h.symm) hclose'

theorem takeTag?_eq_some_iff {cs tag r : List Char} :
    takeTag? cs = some (tag, r) ↔ cs = tag ++ r ∧ IsTag tag := by
  constructor
  · intro h
    unfold takeTag? at h
    split at h
    · next c cs =>
      split at h
      · next hc =>
        obtain ⟨⟨tag', r'⟩, hcut, h⟩ := Option.map_eq_some_iff.mp h
        cases h
        obtain ⟨body, rfl, rfl, hopen, hclose⟩ := exists_of_closeTag? hcut
        refine ⟨?_, c, body, rfl, hc, hopen, hclose⟩
        simp
      · cases h
    · cases h
  · rintro ⟨rfl, c, body, rfl, hc, hopen, hclose⟩
    have hclosed := closeTag?_append hopen hclose r
    simp [takeTag?, hc, hclosed]

theorem hasTag_cons_iff {c : Char} {cs : List Char} :
    HasTag (c :: cs) ↔ takeTag? (c :: cs) ≠ none ∨ HasTag cs := by
  constructor
  · rintro ⟨l, tag, r, hcs, htag⟩
    cases l with
    | nil =>
      rw [List.nil_append] at hcs
      rw [takeTag?_eq_some_iff.mpr ⟨hcs, htag⟩]
      exact .inl nofun
    | cons d l =>
      obtain ⟨-, rfl⟩ := List.cons.inj hcs
      exact .inr ⟨l, tag, r, rfl, htag⟩
  · rintro (htake | ⟨l, tag, r, rfl, htag⟩)
    · obtain ⟨⟨tag, r⟩, htake⟩ := Option.ne_none_iff_exists'.mp htake
      obtain ⟨hcs, htag⟩ := takeTag?_eq_some_iff.mp htake
      exact ⟨[], tag, r, hcs, htag⟩
    · exact ⟨c :: l, tag, r, rfl, htag⟩

/-! ### Escaped texts -/

theorem cons_append_of_slashes {slashes : List Char} (h : ∀ c ∈ slashes, c = '\\')
    (cs : List Char) : ('\\' :: slashes) ++ cs = slashes ++ '\\' :: cs := by
  induction slashes with
  | nil => rfl
  | cons c slashes ih =>
    rw [List.forall_mem_cons] at h
    obtain ⟨rfl, h⟩ := h
    exact congrArg _ (ih h)

/-- A text with a tag grows when its tags are escaped, and one without stays as it is. -/
theorem escapeTags_cases (slashes cs : List Char) :
    (HasTag cs → (slashes ++ cs).length < (escapeTags slashes cs).length) ∧
    (¬ HasTag cs → (∀ c ∈ slashes, c = '\\') → escapeTags slashes cs = slashes ++ cs) := by
  fun_induction escapeTags slashes cs with
  | case1 slashes =>
    refine ⟨?_, fun _ _ => (List.append_nil slashes).symm⟩
    rintro ⟨l, tag, r, hnil, c, body, rfl, -⟩
    simp at hnil
  | case2 slashes c cs tag r htake ih =>
    have htag : HasTag (c :: cs) := hasTag_cons_iff.mpr (.inl (by rw [htake]; exact nofun))
    refine ⟨fun _ => ?_, fun hnone => absurd htag hnone⟩
    have hrest : r.length ≤ (escapeTags [] r).length := by
      by_cases hr : HasTag r
      · exact Nat.le_of_lt (ih.1 hr)
      · exact Nat.le_of_eq (congrArg List.length (ih.2 hr (List.forall_mem_nil _))).symm
    obtain ⟨hcs, -⟩ := takeTag?_eq_some_iff.mp htake
    rw [hcs]
    simp only [List.length_append, List.length_cons]
    omega
  | case3 slashes cs htake ih =>
    rw [hasTag_cons_iff, htake]
    simp only [ne_eq, not_true_eq_false, false_or]
    refine ⟨fun htag => ?_, fun hnone hslashes => ?_⟩
    · have hlonger := ih.1 htag
      simp only [List.length_append, List.length_cons] at hlonger ⊢
      omega
    · rw [ih.2 hnone (List.forall_mem_cons.mpr ⟨rfl, hslashes⟩), cons_append_of_slashes hslashes]
  | case4 slashes c cs htake hc ih =>
    rw [hasTag_cons_iff, htake]
    simp only [ne_eq, not_true_eq_false, false_or]
    refine ⟨fun htag => ?_, fun hnone _ => ?_⟩
    · have hlonger := ih.1 htag
      simp only [List.length_append, List.length_cons, List.nil_append] at hlonger ⊢
      omega
    · rw [ih.2 hnone (List.forall_mem_nil _), List.nil_append]

/-- Whether the last of a text is a backslash with no other in front of it. -/
def EndsAlone (cs : List Char) : Prop := ∃ l, cs = l ++ ['\\'] ∧ l.getLast? ≠ some '\\'

theorem endsAlone_iff {cs : List Char} :
    EndsAlone cs ↔ ∃ rs, cs.reverse = '\\' :: rs ∧ rs.head? ≠ some '\\' := by
  constructor
  · rintro ⟨l, rfl, hl⟩
    exact ⟨l.reverse, by simp, by rwa [List.head?_reverse]⟩
  · rintro ⟨rs, hcs, hrs⟩
    refine ⟨rs.reverse, ?_, by rwa [List.getLast?_reverse]⟩
    rw [← List.reverse_reverse cs, hcs, List.reverse_cons]

theorem doubleLast_cases (cs : List Char) :
    (EndsAlone cs → doubleLast cs = cs ++ ['\\']) ∧ (¬ EndsAlone cs → doubleLast cs = cs) := by
  rw [endsAlone_iff]
  unfold doubleLast
  split
  · next hcs =>
    refine ⟨?_, fun _ => rfl⟩
    rintro ⟨rs, hrs, hhead⟩
    obtain ⟨-, rfl⟩ := List.cons.inj (hcs.symm.trans hrs)
    exact absurd rfl hhead
  · next rs hrs hcs =>
    refine ⟨fun _ => rfl, fun hnone => absurd ⟨rs, hcs, ?_⟩ hnone⟩
    intro hhead
    obtain ⟨more, rfl⟩ := List.head?_eq_some_iff.mp hhead
    exact hrs more rfl
  · next hrs =>
    refine ⟨?_, fun _ => rfl⟩
    rintro ⟨rs, hcs, -⟩
    exact absurd hcs (hrs rs)

theorem length_le_doubleLast (cs : List Char) : cs.length ≤ (doubleLast cs).length := by
  obtain ⟨halone, hpaired⟩ := doubleLast_cases cs
  by_cases hends : EndsAlone cs
  · rw [halone hends, List.length_append]
    exact Nat.le_add_right _ _
  · exact Nat.le_of_eq (congrArg List.length (hpaired hends)).symm

/-- A text of which nothing is read as markup. -/
def Unmarked (cs : List Char) : Prop := ¬ HasTag cs ∧ ¬ EndsAlone cs

/-- A text is escaped to itself if nothing of it is read as markup, else to a longer one. -/
theorem escape_cases (cs : List Char) :
    (Unmarked cs → escape cs = cs) ∧ (¬ Unmarked cs → cs.length < (escape cs).length) := by
  obtain ⟨htag, huntagged⟩ := escapeTags_cases [] cs
  obtain ⟨halone, hpaired⟩ := doubleLast_cases cs
  refine ⟨fun ⟨hnone, hends⟩ => ?_, fun hmarked => ?_⟩
  · rw [escape, huntagged hnone (List.forall_mem_nil _), List.nil_append, hpaired hends]
  · by_cases hcs : HasTag cs
    · exact Nat.lt_of_lt_of_le (htag hcs) (length_le_doubleLast _)
    · have hends : EndsAlone cs := Classical.not_not.mp (fun h => hmarked ⟨hcs, h⟩)
      rw [escape, huntagged hcs (List.forall_mem_nil _), List.nil_append, halone hends]
      simp

theorem escape_eq_self_iff {cs : List Char} : escape cs = cs ↔ Unmarked cs := by
  obtain ⟨hsame, hlonger⟩ := escape_cases cs
  refine ⟨fun h => Classical.not_not.mp (fun hmarked => ?_), hsame⟩
  exact absurd (congrArg List.length h).symm (Nat.ne_of_lt (hlonger hmarked))

theorem length_le_escape (cs : List Char) : cs.length ≤ (escape cs).length := by
  obtain ⟨hsame, hlonger⟩ := escape_cases cs
  by_cases h : Unmarked cs
  · exact Nat.le_of_eq (congrArg List.length (hsame h)).symm
  · exact Nat.le_of_lt (hlonger h)

/-- A text with neither an opening bracket nor a backslash is left alone. -/
theorem unmarked_of_not_mem {cs : List Char} (hopen : '[' ∉ cs) (hslash : '\\' ∉ cs) :
    Unmarked cs := by
  constructor
  · rintro ⟨l, tag, r, rfl, c, body, rfl, -⟩
    simp at hopen
  · rintro ⟨l, rfl, -⟩
    simp at hslash

end Mooring.Text
