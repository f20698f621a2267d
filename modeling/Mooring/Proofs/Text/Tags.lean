import Mooring.Proofs.Text.Markup

/-! The tags that are read in a text, and whether they pair up. A tag behind an odd number of
backslashes is none; of the others, one that closes has to name one that is open. In an escaped text
no tag is read, whatever the text, so what is put around it alone decides. -/

namespace Mooring.Text

/-- The tags of a text that are read as such; `odd` tells whether an odd number of backslashes
stands right in front of it. -/
def readTags (odd : Bool) : List Char → List (List Char)
  | [] => []
  | c :: cs =>
    let tags := readTags (c == '\\' && !odd) cs
    match takeTag? (c :: cs) with
    | some (tag, _) => if odd then tags else tag :: tags
    | none => tags

/-- Whether every tag that closes names one that is open then. A tag with an action of its own pairs
up with none. -/
def pairUp (opened : List (List Char)) : List (List Char) → Bool
  | [] => true
  | ('[' :: '/' :: name) :: tags =>
    opened.contains ('[' :: name) && pairUp (opened.erase ('[' :: name)) tags
  | ('[' :: '@' :: _) :: _ => false
  | tag :: tags => pairUp (tag :: opened) tags

/-- A text whose markup can be read. -/
def WellMarked (cs : List Char) : Prop := pairUp [] (readTags false cs) = true

instance (cs : List Char) : Decidable (WellMarked cs) := inferInstanceAs (Decidable (_ = true))

/-! ### Tags read one after another -/

theorem takeTag?_eq_none_of_ne {c : Char} (h : c ≠ '[') (cs : List Char) :
    takeTag? (c :: cs) = none := by
  unfold takeTag?
  split
  · next heq => exact absurd (List.cons.inj heq).1 h
  · rfl

theorem readTags_cons_of_none {c : Char} {cs : List Char} (h : takeTag? (c :: cs) = none)
    (odd : Bool) : readTags odd (c :: cs) = readTags (c == '\\' && !odd) cs := by
  rw [readTags, h]

/-- A character that is neither a bracket nor a backslash is passed over. -/
theorem readTags_cons_of_ne {c : Char} (hopen : c ≠ '[') (hslash : c ≠ '\\') (odd : Bool)
    (cs : List Char) : readTags odd (c :: cs) = readTags false cs := by
  rw [readTags_cons_of_none (takeTag?_eq_none_of_ne hopen cs), beq_false_of_ne hslash,
    Bool.false_and]

/-- A text without an opening bracket has no tag; what follows it is read as if an odd or an even
number of backslashes stood in front. -/
theorem exists_readTags_append {l : List Char} (h : '[' ∉ l) (odd : Bool) (cs : List Char) :
    ∃ odd', readTags odd (l ++ cs) = readTags odd' cs := by
  induction l generalizing odd with
  | nil => exact ⟨odd, rfl⟩
  | cons c l ih =>
    rw [List.mem_cons, not_or] at h
    obtain ⟨odd', hread⟩ := ih h.2 (c == '\\' && !odd)
    refine ⟨odd', ?_⟩
    rw [List.cons_append, readTags_cons_of_none (takeTag?_eq_none_of_ne (Ne.symm h.1) _), hread]

theorem readTags_of_not_mem {cs : List Char} (h : '[' ∉ cs) (odd : Bool) :
    readTags odd cs = [] := by
  obtain ⟨odd', hread⟩ := exists_readTags_append h odd []
  rw [List.append_nil] at hread
  exact hread

theorem readTags_plain_append {l : List Char} (hopen : '[' ∉ l) (hslash : '\\' ∉ l)
    (cs : List Char) : readTags false (l ++ cs) = readTags false cs := by
  induction l with
  | nil => rfl
  | cons c l ih =>
    rw [List.mem_cons, not_or] at hopen hslash
    rw [List.cons_append, readTags_cons_of_ne (Ne.symm hopen.1) (Ne.symm hslash.1),
      ih hopen.2 hslash.2]

/-- Behind the bracket that opens it, no other opens in a tag. -/
theorem not_mem_of_startsTag {c : Char} {body : List Char} (hc : startsTag c = true)
    (hopen : '[' ∉ body) : '[' ∉ c :: body := by
  refine List.not_mem_cons_of_ne_of_not_mem (fun heq => ?_) hopen
  rw [← heq] at hc
  revert hc
  decide

/-- A tag is read unless an odd number of backslashes stands in front of it. -/
theorem readTags_tag_append {tag : List Char} (h : IsTag tag) (odd : Bool) (cs : List Char) :
    readTags odd (tag ++ cs) =
      if odd then readTags false cs else tag :: readTags false cs := by
  obtain ⟨c, body, rfl, hc, hopen, hclose⟩ := h
  have htake : takeTag? ('[' :: (c :: (body ++ [']']) ++ cs)) =
      some ('[' :: c :: (body ++ [']']), cs) :=
    takeTag?_eq_some_iff.mpr ⟨rfl, c, body, rfl, hc, hopen, hclose⟩
  -- behind its bracket, nothing of a tag is read
  have hrest (odd : Bool) : readTags odd (c :: (body ++ [']']) ++ cs) = readTags false cs := by
    obtain ⟨odd', hread⟩ := exists_readTags_append (not_mem_of_startsTag hc hopen) odd (']' :: cs)
    have hclosed := readTags_cons_of_ne (c := ']') (by decide) (by decide) odd' cs
    rw [← hclosed, ← hread]
    simp
  rw [List.cons_append, readTags, htake]
  simp only [hrest]

/-! ### Escaped texts -/

/-- Backslashes count as odd or even with those in front of them. -/
theorem readTags_slashes_append {slashes : List Char} (h : ∀ c ∈ slashes, c = '\\') (odd : Bool)
    (cs : List Char) :
    readTags odd (slashes ++ cs) = readTags (odd ^^ decide (slashes.length % 2 = 1)) cs := by
  induction slashes generalizing odd with
  | nil => simp
  | cons c slashes ih =>
    rw [List.forall_mem_cons] at h
    obtain ⟨rfl, h⟩ := h
    rw [List.cons_append, readTags_cons_of_none (takeTag?_eq_none_of_ne (by decide) _), ih h]
    congr 1
    rw [List.length_cons]
    rcases Nat.mod_two_eq_zero_or_one slashes.length with heven | hodd
    · have hnext : (slashes.length + 1) % 2 = 1 := by omega
      simp [heven, hnext]
    · have hnext : (slashes.length + 1) % 2 = 0 := by omega
      simp [hodd, hnext]

/-- A bracket that closes cannot stand among backslashes. -/
theorem exists_of_slashes_append_eq {slashes cs l r : List Char}
    (hslashes : ∀ c ∈ slashes, c = '\\') (h : slashes ++ cs = l ++ ']' :: r) :
    ∃ l', l = slashes ++ l' ∧ cs = l' ++ ']' :: r := by
  induction slashes generalizing l with
  | nil => exact ⟨l, rfl, h⟩
  | cons c slashes ih =>
    rw [List.forall_mem_cons] at hslashes
    obtain ⟨rfl, hslashes⟩ := hslashes
    cases l with
    | nil => exact absurd (List.cons.inj h).1 (by decide)
    | cons d l =>
      obtain ⟨rfl, htail⟩ := List.cons.inj h
      obtain ⟨l', rfl, hcs⟩ := ih hslashes htail
      exact ⟨l', rfl, hcs⟩

/-- Up to the first opening bracket, what closes in an escaped text closes in the text itself. -/
theorem exists_of_escapeTags_eq {slashes cs l r : List Char} (hslashes : ∀ c ∈ slashes, c = '\\')
    (hopen : '[' ∉ l) (h : escapeTags slashes cs = l ++ ']' :: r) :
    ∃ r', slashes ++ cs = l ++ ']' :: r' := by
  fun_induction escapeTags slashes cs generalizing l r with
  | case1 slashes =>
    have hmem : ']' ∈ slashes := h ▸ List.mem_append_right l (List.mem_cons_self ..)
    exact absurd (hslashes _ hmem) (by decide)
  | case2 slashes c cs tag rest htake ih =>
    -- the first thing behind the backslashes is the bracket that opens the tag
    obtain ⟨-, d, body, rfl, -⟩ := takeTag?_eq_some_iff.mp htake
    have hmore : ∀ c ∈ slashes ++ (slashes ++ ['\\']), c = '\\' :=
      List.forall_mem_append.mpr ⟨hslashes,
        List.forall_mem_append.mpr ⟨hslashes, List.forall_mem_singleton.mpr rfl⟩⟩
    have hcut : slashes ++ (slashes ++ ['\\']) ++ '[' :: (d :: (body ++ [']']) ++
        escapeTags [] rest) = l ++ ']' :: r := by
      rw [← h]
      simp
    obtain ⟨l', rfl, hrest⟩ := exists_of_slashes_append_eq hmore hcut
    cases l' with
    | nil => exact absurd (List.cons.inj hrest).1 (by decide)
    | cons e l' =>
      obtain ⟨rfl, -⟩ := List.cons.inj hrest
      simp at hopen
  | case3 slashes cs htake ih =>
    obtain ⟨r', hr'⟩ := ih (List.forall_mem_cons.mpr ⟨rfl, hslashes⟩) hopen h
    exact ⟨r', by rw [← hr', cons_append_of_slashes hslashes]⟩
  | case4 slashes c cs htake hc ih =>
    obtain ⟨l', rfl, hcut⟩ := exists_of_slashes_append_eq hslashes h
    cases l' with
    | nil =>
      obtain ⟨rfl, -⟩ := List.cons.inj hcut
      exact ⟨cs, by simp⟩
    | cons d l' =>
      obtain ⟨rfl, htail⟩ := List.cons.inj hcut
      have hopen' : '[' ∉ l' := fun hmem => hopen (by simp [hmem])
      obtain ⟨r', hr'⟩ := ih (List.forall_mem_nil _) hopen' htail
      exact ⟨r', by rw [← List.nil_append cs, hr']; simp⟩

/-- What is no tag is none in front of an escaped text either. -/
theorem takeTag?_escapeTags {cs : List Char} (h : takeTag? ('[' :: cs) = none) :
    takeTag? ('[' :: escapeTags [] cs) = none := by
  cases htake : takeTag? ('[' :: escapeTags [] cs) with
  | none => rfl
  | some cut =>
    obtain ⟨hcs, c, body, htag, hc, hopen, hclose⟩ := takeTag?_eq_some_iff.mp htake
    have hcut : escapeTags [] cs = (c :: body) ++ ']' :: cut.2 := by
      rw [htag] at hcs
      simpa using (List.cons.inj hcs).2
    obtain ⟨r', hr'⟩ :=
      exists_of_escapeTags_eq (List.forall_mem_nil _) (not_mem_of_startsTag hc hopen) hcut
    have hclosed : takeTag? ('[' :: cs) = some ('[' :: c :: (body ++ [']']), r') := by
      refine takeTag?_eq_some_iff.mpr ⟨?_, c, body, rfl, hc, hopen, hclose⟩
      rw [← List.nil_append cs, hr']
      simp
    rw [h] at hclosed
    cases hclosed

theorem readTags_escapeTags {slashes : List Char} (h : ∀ c ∈ slashes, c = '\\') (cs : List Char) :
    readTags false (escapeTags slashes cs) = [] := by
  fun_induction escapeTags slashes cs with
  | case1 slashes => exact readTags_of_not_mem (fun hmem => absurd (h _ hmem) (by decide)) false
  | case2 slashes c cs tag rest htake ih =>
    obtain ⟨-, htag⟩ := takeTag?_eq_some_iff.mp htake
    -- twice as many backslashes and one more
    rw [List.append_assoc, List.append_assoc, readTags_slashes_append h,
      readTags_slashes_append h, List.cons_append,
      readTags_cons_of_none (takeTag?_eq_none_of_ne (by decide) _), readTags_tag_append htag,
      ih (List.forall_mem_nil _)]
    simp
  | case3 slashes cs htake ih => exact ih (List.forall_mem_cons.mpr ⟨rfl, h⟩)
  | case4 slashes c cs htake hc ih =>
    have hnone : takeTag? (c :: escapeTags [] cs) = none := by
      by_cases hopen : c = '['
      · subst hopen
        exact takeTag?_escapeTags htake
      · exact takeTag?_eq_none_of_ne hopen _
    rw [readTags_slashes_append h, readTags_cons_of_none hnone, beq_false_of_ne hc, Bool.false_and]
    exact ih (List.forall_mem_nil _)

/-- A backslash at the end neither makes nor hides a tag. -/
theorem takeTag?_concat_slash (cs : List Char) :
    (takeTag? (cs ++ ['\\'])).map (·.1) = (takeTag? cs).map (·.1) := by
  have keeps {cs tag r : List Char} (h : takeTag? cs = some (tag, r)) :
      takeTag? (cs ++ ['\\']) = some (tag, r ++ ['\\']) := by
    obtain ⟨hcs, htag⟩ := takeTag?_eq_some_iff.mp h
    exact takeTag?_eq_some_iff.mpr ⟨by rw [hcs, List.append_assoc], htag⟩
  cases htake : takeTag? cs with
  | some cut =>
    rw [keeps htake]
    rfl
  | none =>
    cases hmore : takeTag? (cs ++ ['\\']) with
    | none => rfl
    | some cut =>
      -- the tag ends in a bracket, so it stands in front of the backslash
      obtain ⟨hcs, htag⟩ := takeTag?_eq_some_iff.mp hmore
      rcases List.eq_nil_or_concat cut.2 with hnil | ⟨r, x, hlast⟩
      · obtain ⟨c, body, hbody, -⟩ := htag
        rw [hnil, List.append_nil, hbody] at hcs
        rw [← List.cons_append, ← List.cons_append] at hcs
        obtain ⟨-, hlast⟩ := List.append_inj' hcs rfl
        exact absurd (List.head_eq_of_cons_eq hlast) (by decide)
      · rw [hlast, List.concat_eq_append, ← List.append_assoc] at hcs
        obtain ⟨rfl, -⟩ := List.append_inj' hcs rfl
        rw [takeTag?_eq_some_iff.mpr ⟨rfl, htag⟩] at htake
        cases htake

theorem readTags_concat_slash (odd : Bool) (cs : List Char) :
    readTags odd (cs ++ ['\\']) = readTags odd cs := by
  induction cs generalizing odd with
  | nil => cases odd <;> rfl
  | cons c cs ih =>
    have htake := takeTag?_concat_slash (c :: cs)
    rw [List.cons_append] at htake ⊢
    rw [readTags, readTags, ih]
    cases hmore : takeTag? (c :: (cs ++ ['\\'])) <;> cases hcs : takeTag? (c :: cs) <;>
      simp_all

theorem readTags_escape (cs : List Char) : readTags false (escape cs) = [] := by
  have htags := readTags_escapeTags (List.forall_mem_nil _) cs
  obtain ⟨halone, hpaired⟩ := doubleLast_cases (escapeTags [] cs)
  by_cases hends : EndsAlone (escapeTags [] cs)
  · rw [escape, halone hends, readTags_concat_slash, htags]
  · rw [escape, hpaired hends, htags]

/-! ### Texts whose markup can be read -/

theorem wellMarked_of_not_mem {cs : List Char} (h : '[' ∉ cs) : WellMarked cs := by
  rw [WellMarked, readTags_of_not_mem h]
  rfl

theorem wellMarked_plain_append {l : List Char} (hopen : '[' ∉ l) (hslash : '\\' ∉ l)
    {cs : List Char} : WellMarked (l ++ cs) ↔ WellMarked cs := by
  rw [WellMarked, readTags_plain_append hopen hslash, WellMarked]

example : WellMarked "[b]left[/b]".toList := by decide

example : ¬ WellMarked "[/b]".toList := by decide

end Mooring.Text
