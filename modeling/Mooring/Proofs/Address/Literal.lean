import Mathlib.Data.List.Nodup
import Mooring.Address.Ip
import Mooring.Proofs.Address.Gateway
import Mooring.Proofs.Text.Cuts

/-! Addresses of version 6 as they are written. Eight groups, or fewer with `::` in the place of
those that are left out, and perhaps an address of version 4 in the place of the last two: whatever
is put together so is recognized as an address. -/

namespace Mooring.Address

open Text

/-! ### Version 4 -/

theorem isOctet_toDigits (n : UInt8) : isOctet (Nat.toDigits 10 n.toNat) = true := by
  have hall : ∀ k < 256, isOctet (Nat.toDigits 10 k) = true := by decide +kernel
  exact hall n.toNat n.toNat_lt

theorem isV4_text (a : V4) : isV4 a.text.toList = true := by
  have hpiece (n : UInt8) : splitAt (· == '.') (Nat.toDigits 10 n.toNat) =
      [Nat.toDigits 10 n.toNat] := by
    refine splitAt_of_unseparated _ (fun c hc => ?_)
    have hne : c ≠ '.' := fun heq => V4.point_not_mem_toDigits n.toNat (heq ▸ hc)
    simpa using hne
  rw [isV4, V4.toList_text, splitAt_append_separator _ rfl, splitAt_append_separator _ rfl,
    splitAt_append_separator _ rfl]
  simp [hpiece, isOctet_toDigits]

/-- An address of version 4 has no colon. -/
theorem isV4_append_colon (l r : List Char) : isV4 (l ++ ':' :: r) = false := by
  have hcolon : (fun c => c == '.') ':' = false := rfl
  obtain ⟨pieces, last, next, more, -, -, hsplit⟩ := exists_splitAt_append (· == '.') hcolon l r
  have hoctet : isOctet (last ++ ':' :: next) = false := by
    simp [isOctet, isAsciiDigit]
  simp [isV4, hsplit, hoctet]

/-! ### Version 6 -/

/-- One to four hexadecimal digits. -/
abbrev Group := { cs : List Char // isGroup cs = true }

/-- The end of an address: groups, and perhaps an address of version 4 that stands for two more. -/
structure Ending where
  groups : List Group
  embedded : Option V4

namespace Ending

def size (e : Ending) : Nat := e.groups.length + if e.embedded.isSome then 2 else 0

/-- What stands between the colons. -/
def pieces (e : Ending) : List (List Char) :=
  e.groups.map (·.val) ++ (e.embedded.map (·.text.toList)).toList

/-- The groups, with two zeros for an address of version 4. -/
def filled (e : Ending) : List (List Char) :=
  e.groups.map (·.val) ++ if e.embedded.isSome then [['0'], ['0']] else []

theorem length_filled (e : Ending) : e.filled.length = e.size := by
  cases h : e.embedded <;> simp [filled, size, h]

theorem size_le (e : Ending) : e.size ≤ e.pieces.length + 1 := by
  cases h : e.embedded <;> simp [pieces, size, h]

theorem isGroup_of_mem_filled (e : Ending) : ∀ piece ∈ e.filled, isGroup piece = true := by
  intro piece hpiece
  rcases List.mem_append.mp hpiece with hgroup | hzero
  · obtain ⟨group, -, rfl⟩ := List.mem_map.mp hgroup
    exact group.property
  · split at hzero
    · have hpiece : piece = ['0'] := by simpa using hzero
      rw [hpiece]
      rfl
    · cases hzero

end Ending

/-- An address as it is written: all of its groups, or those around a gap. -/
inductive V6 where
  | whole (ending : Ending) (h : ending.size = 8)
  | gapped (front : List Group) (ending : Ending) (h : front.length + ending.size < 8)

namespace V6

def chars : V6 → List Char
  | whole ending _ => joinWith [':'] ending.pieces
  | gapped front ending _ =>
    joinWith [':'] (front.map (·.val)) ++ ':' :: ':' :: joinWith [':'] ending.pieces

end V6

/-- The characters of an address. -/
def isLiteralChar (c : Char) : Bool := isHexDigit c || c == ':' || c == '.'

theorem isHexDigit_of_mem_group {group : List Char} (h : isGroup group = true) :
    ∀ c ∈ group, isHexDigit c = true := by
  simp only [isGroup, Bool.and_eq_true, List.all_eq_true] at h
  exact h.2

section Characters

variable {p : Char → Prop} (hdigit : ∀ c, isHexDigit c = true → p c)

include hdigit

theorem forall_mem_groups (groups : List Group) :
    ∀ piece ∈ groups.map (·.val), ∀ c ∈ piece, p c := by
  intro piece hpiece c hc
  obtain ⟨group, -, rfl⟩ := List.mem_map.mp hpiece
  exact hdigit c (isHexDigit_of_mem_group group.property c hc)

variable (hdot : p '.')

include hdot

theorem forall_mem_text (a : V4) : ∀ c ∈ a.text.toList, p c := by
  have hdigits (n : UInt8) : ∀ c ∈ Nat.toDigits 10 n.toNat, p c := by
    intro c hc
    have hoctet := isOctet_toDigits n
    simp only [isOctet, Bool.and_eq_true, List.all_eq_true] at hoctet
    exact hdigit c (by simp [isHexDigit, hoctet.1.1.1.2 c hc])
  rw [V4.toList_text]
  simp only [List.forall_mem_append, List.forall_mem_cons]
  exact ⟨hdigits _, hdot, hdigits _, hdot, hdigits _, hdot, hdigits _⟩

theorem forall_mem_pieces (e : Ending) : ∀ piece ∈ e.pieces, ∀ c ∈ piece, p c := by
  intro piece hpiece
  rcases List.mem_append.mp hpiece with hgroup | hembedded
  · exact forall_mem_groups hdigit _ piece hgroup
  · obtain ⟨address, -, rfl⟩ := Option.map_eq_some_iff.mp (Option.mem_toList.mp hembedded)
    exact forall_mem_text hdigit hdot address

end Characters

theorem isLiteralChar_of_mem_chars (a : V6) : ∀ c ∈ a.chars, isLiteralChar c = true := by
  have hdigit : ∀ c, isHexDigit c = true → isLiteralChar c = true := fun c hc => by
    simp [isLiteralChar, hc]
  have hcolon : ∀ c ∈ [':'], isLiteralChar c = true := List.forall_mem_singleton.mpr rfl
  cases a with
  | whole ending h => exact forall_mem_joinWith hcolon (forall_mem_pieces hdigit rfl ending)
  | gapped front ending h =>
    rw [V6.chars, List.forall_mem_append, List.forall_mem_cons, List.forall_mem_cons]
    exact ⟨forall_mem_joinWith hcolon (forall_mem_groups hdigit front), rfl, rfl,
      forall_mem_joinWith hcolon (forall_mem_pieces hdigit rfl ending)⟩

theorem not_mem_chars (a : V6) {c : Char} (h : isLiteralChar c = false) : c ∉ a.chars := by
  intro hc
  rw [isLiteralChar_of_mem_chars a c hc] at h
  cases h

/-! ### Parts -/

/-- What a row of parts is cut into: of no parts there is one that is empty. -/
def padded (parts : List (List Char)) : List (List Char) := if parts = [] then [[]] else parts

theorem padded_ne_nil (parts : List (List Char)) : padded parts ≠ [] := by
  rw [padded]
  split
  · simp
  · next h => exact h

theorem splitAt_colon {pieces : List (List Char)}
    (h : ∀ piece ∈ pieces, ∀ c ∈ piece, (c == ':') = false) :
    splitAt (· == ':') (joinWith [':'] pieces) = padded pieces := by
  rw [padded]
  exact splitAt_joinWith rfl h

/-- Parts that end with groups are taken as they are; an address of version 4 among them counts as
two zeros. -/
theorem groups?_of_ending {cs : List Char} {before : List (List Char)} {e : Ending}
    (h : splitAt (· == ':') cs = before ++ padded e.pieces)
    (hlength : 3 ≤ (before ++ padded e.pieces).length) :
    groups? cs = some (before ++ padded e.filled) := by
  obtain ⟨groups, embedded⟩ := e
  cases embedded with
  | some address =>
    have hdot : '.' ∈ address.text.toList := by simp [V4.toList_text]
    have hpieces : padded (Ending.pieces ⟨groups, some address⟩) =
        groups.map (·.val) ++ [address.text.toList] := by
      simp [padded, Ending.pieces]
    have hfilled : padded (Ending.filled ⟨groups, some address⟩) =
        groups.map (·.val) ++ [['0'], ['0']] := by
      simp [padded, Ending.filled]
    rw [hpieces] at h hlength
    simp only [List.length_append, List.length_map, List.length_singleton] at hlength
    simp [groups?, h, hfilled, hdot, isV4_text, Nat.not_lt.mpr hlength, List.reverse_append]
  | none =>
    have hpieces : Ending.pieces ⟨groups, none⟩ = Ending.filled ⟨groups, none⟩ := rfl
    rw [hpieces] at h hlength
    obtain ⟨front, last, hlast⟩ : ∃ front last,
        padded (Ending.filled ⟨groups, none⟩) = front ++ [last] :=
      ⟨_, _, (List.dropLast_concat_getLast (padded_ne_nil _)).symm⟩
    have hdot : '.' ∉ last := by
      have hmem : last ∈ padded (Ending.filled ⟨groups, none⟩) := by simp [hlast]
      rw [padded] at hmem
      split at hmem
      · simp_all
      · intro hpoint
        have hdigit := isHexDigit_of_mem_group (Ending.isGroup_of_mem_filled _ last hmem) _ hpoint
        cases hdigit
    rw [hlast] at h hlength ⊢
    simp only [List.length_append, List.length_singleton] at hlength
    simp [groups?, h, hdot, Nat.not_lt.mpr hlength, List.reverse_append]

/-! ### Gaps -/

theorem filter_range_eq_singleton {p : Nat → Bool} {n k : Nat} (hk : k < n)
    (h : ∀ i < n, p i = (i == k)) : (List.range n).filter p = [k] := by
  have hcongr : (List.range n).filter p = (List.range n).filter (· == k) :=
    List.filter_congr (fun i hi => h i (List.mem_range.mp hi))
  have hcount : (List.range n).count k = 1 :=
    List.count_eq_one_of_mem List.nodup_range (List.mem_range.mpr hk)
  rw [hcongr, List.filter_beq, hcount]
  rfl

theorem ne_nil_of_isGroup {group : List Char} (h : isGroup group = true) : group ≠ [] := by
  rintro rfl
  cases h

/-- Eight groups make an address. -/
theorem completeGroups_of_whole {parts : List (List Char)} (hlength : parts.length = 8)
    (h : ∀ part ∈ parts, isGroup part = true) : completeGroups parts = true := by
  have hgaps : (List.range parts.length).filter (fun i =>
      0 < i && i + 1 < parts.length && (parts.getD i []).isEmpty) = [] := by
    rw [List.filter_eq_nil_iff]
    intro i hi
    have hi : i < parts.length := List.mem_range.mp hi
    have hpart : parts[i] ≠ [] := ne_nil_of_isGroup (h _ (List.getElem_mem hi))
    simp [hi, hpart]
  have hgroups : parts.all isGroup = true := List.all_eq_true.mpr h
  simp only [completeGroups, hgaps]
  simp [hlength, hgroups]

section Gap

variable {parts front back : List (List Char)}

theorem length_padded_pos (parts : List (List Char)) : 0 < (padded parts).length :=
  List.length_pos_of_ne_nil (padded_ne_nil parts)

theorem length_le_padded (parts : List (List Char)) : parts.length ≤ (padded parts).length := by
  cases parts <;> simp [padded]

/-- Groups are what they were before they were padded. -/
theorem unpad (h : ∀ part ∈ parts, isGroup part = true) :
    (if padded parts == [[]] then [] else padded parts) = parts := by
  cases parts with
  | nil => rfl
  | cons part parts =>
    have hne : part ≠ [] := ne_nil_of_isGroup (h part List.mem_cons_self)
    simp [padded, hne]

/-- A part of a padded row is empty only where it is the only one. -/
theorem getElem_padded_ne_nil (h : ∀ part ∈ parts, isGroup part = true) {i : Nat}
    (hi : i < (padded parts).length) (hmore : (padded parts).length ≠ 1) :
    (padded parts)[i] ≠ [] := by
  cases parts with
  | nil => exact absurd rfl hmore
  | cons part parts => exact ne_nil_of_isGroup (h _ (List.getElem_mem hi))

/-- Of the inner parts only the gap is empty. -/
theorem isEmpty_inner (hfront : ∀ part ∈ front, isGroup part = true)
    (hback : ∀ part ∈ back, isGroup part = true) {i : Nat}
    (hi : i < (padded front ++ [] :: padded back).length) :
    (0 < i && i + 1 < (padded front ++ [] :: padded back).length &&
      ((padded front ++ [] :: padded back).getD i []).isEmpty) = (i == (padded front).length) := by
  have hfirst := length_padded_pos front
  have hlast := length_padded_pos back
  simp only [List.length_append, List.length_cons] at hi ⊢
  rcases Nat.lt_trichotomy i (padded front).length with hlt | rfl | hgt
  · have hpart : (padded front ++ [] :: padded back).getD i [] = (padded front)[i] := by
      simp [List.getElem?_append_left hlt, hlt]
    have hne : (i == (padded front).length) = false := beq_false_of_ne (Nat.ne_of_lt hlt)
    by_cases hpos : 0 < i
    · have hinner : (padded front)[i].isEmpty = false := by
        simpa using getElem_padded_ne_nil hfront hlt (by omega)
      rw [hpart, hinner, hne, Bool.and_false]
    · simp [hpos, hne]
  · have hpart : (padded front ++ [] :: padded back).getD (padded front).length [] = [] := by
      simp
    rw [hpart]
    simp
    omega
  · have hback' : i - (padded front).length - 1 < (padded back).length := by omega
    have hpart : (padded front ++ [] :: padded back).getD i [] =
        (padded back)[i - (padded front).length - 1] := by
      rw [List.getD_eq_getElem?_getD, List.getElem?_append_right (Nat.le_of_lt hgt),
        List.getElem?_cons, if_neg (by omega), List.getElem?_eq_getElem hback', Option.getD_some]
    have hne : (i == (padded front).length) = false := beq_false_of_ne (Nat.ne_of_gt hgt)
    by_cases hinside : i + 1 < (padded front).length + ((padded back).length + 1)
    · have hinner : (padded back)[i - (padded front).length - 1].isEmpty = false := by
        simpa using getElem_padded_ne_nil hback hback' (by omega)
      rw [hpart, hinner, hne, Bool.and_false]
    · simp [hinside, hne]

/-- Groups around a gap make an address, if one group at least is left out. -/
theorem completeGroups_of_gapped (hlength : front.length + back.length < 8)
    (hfront : ∀ part ∈ front, isGroup part = true) (hback : ∀ part ∈ back, isGroup part = true) :
    completeGroups (padded front ++ [] :: padded back) = true := by
  have hgaps : (List.range (padded front ++ [] :: padded back).length).filter (fun i =>
      0 < i && i + 1 < (padded front ++ [] :: padded back).length &&
        ((padded front ++ [] :: padded back).getD i []).isEmpty) = [(padded front).length] :=
    filter_range_eq_singleton (by simp) (fun i hi => isEmpty_inner hfront hback hi)
  have hdrop : (padded front ++ [] :: padded back).drop ((padded front).length + 1) =
      padded back := by
    simp [List.drop_append]
  have hsize : (padded front).length + ((padded back).length + 1) ≤ 9 := by
    cases front <;> cases back <;> simp_all [padded] <;> omega
  simp only [completeGroups, hgaps, List.take_left, hdrop, unpad hfront, unpad hback]
  simp [hsize, hlength, List.all_eq_true.mpr hfront, List.all_eq_true.mpr hback]

end Gap

/-! ### Addresses -/

/-- An address has a colon. -/
theorem exists_colon (a : V6) : ∃ l r, a.chars = l ++ ':' :: r := by
  cases a with
  | gapped front ending h => exact ⟨_, _, rfl⟩
  | whole ending h =>
    obtain ⟨groups, embedded⟩ := ending
    obtain ⟨first, second, more, rfl⟩ : ∃ first second more, groups = first :: second :: more := by
      match groups, h with
      | [], h | [_], h => cases embedded <;> simp [Ending.size] at h
      | first :: second :: more, _ => exact ⟨first, second, more, rfl⟩
    refine ⟨first.val, joinWith [':'] (Ending.pieces ⟨second :: more, embedded⟩), ?_⟩
    simp [V6.chars, Ending.pieces, joinWith]

theorem isV4_chars (a : V6) : isV4 a.chars = false := by
  obtain ⟨l, r, hchars⟩ := exists_colon a
  rw [hchars, isV4_append_colon]

theorem ne_colon_of_isHexDigit (c : Char) (h : isHexDigit c = true) : (c == ':') = false := by
  refine beq_false_of_ne ?_
  rintro rfl
  cases h

theorem groups?_whole (ending : Ending) (h : ending.size = 8) :
    groups? (V6.whole ending h).chars = some ending.filled := by
  have hsome : ending.filled ≠ [] := by
    intro hnone
    have hlength := ending.length_filled
    simp [hnone, h] at hlength
  have hlong : 3 ≤ ([] ++ padded ending.pieces).length := by
    have hsize := ending.size_le
    have hpadded := length_le_padded ending.pieces
    rw [List.nil_append]
    omega
  have hgroups := groups?_of_ending
    (splitAt_colon (forall_mem_pieces ne_colon_of_isHexDigit rfl ending)) hlong
  rwa [List.nil_append, padded, if_neg hsome] at hgroups

theorem groups?_gapped (front : List Group) (ending : Ending)
    (h : front.length + ending.size < 8) :
    groups? (V6.gapped front ending h).chars =
      some (padded (front.map (·.val)) ++ [] :: padded ending.filled) := by
  have hgap : splitAt (· == ':') (':' :: joinWith [':'] ending.pieces) =
      [] :: padded ending.pieces := by
    rw [← splitAt_colon (forall_mem_pieces ne_colon_of_isHexDigit rfl ending)]
    rfl
  have hsplit : splitAt (· == ':') (V6.gapped front ending h).chars =
      (padded (front.map Subtype.val) ++ [[]]) ++ padded ending.pieces := by
    rw [V6.chars, splitAt_append_separator _ rfl, hgap,
      splitAt_colon (forall_mem_groups ne_colon_of_isHexDigit front), List.append_assoc]
    rfl
  have hlong : 3 ≤ ((padded (front.map Subtype.val) ++ [[]]) ++ padded ending.pieces).length := by
    have hfirst := length_padded_pos (front.map Subtype.val)
    have hlast := length_padded_pos ending.pieces
    simp only [List.length_append, List.length_singleton]
    omega
  have hgroups := groups?_of_ending hsplit hlong
  rwa [List.append_assoc] at hgroups

theorem exists_groups (a : V6) :
    ∃ parts, groups? a.chars = some parts ∧ completeGroups parts = true := by
  cases a with
  | whole ending h =>
    refine ⟨_, groups?_whole ending h, ?_⟩
    exact completeGroups_of_whole (by rw [ending.length_filled, h]) ending.isGroup_of_mem_filled
  | gapped front ending h =>
    refine ⟨_, groups?_gapped front ending h, ?_⟩
    have hlength : (front.map (·.val)).length + ending.filled.length < 8 := by
      rw [List.length_map, ending.length_filled]
      exact h
    have hfront : ∀ part ∈ front.map (·.val), isGroup part = true := by
      intro part hpart
      obtain ⟨group, -, rfl⟩ := List.mem_map.mp hpart
      exact group.property
    exact completeGroups_of_gapped hlength hfront ending.isGroup_of_mem_filled

/-- An address of version 6 is recognized however it is written. -/
theorem isV6_chars (a : V6) : isV6 a.chars = true := by
  have hslash : '/' ∉ a.chars := not_mem_chars a rfl
  have hzone : cutFirst '%' a.chars = none := cutFirst_eq_none_iff.mpr (not_mem_chars a rfl)
  obtain ⟨parts, hparts, hcomplete⟩ := exists_groups a
  simp [isV6, hslash, hzone, hparts, hcomplete]

end Mooring.Address
