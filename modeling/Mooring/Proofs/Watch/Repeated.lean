import Mooring.Proofs.CommandLine.Values
import Mooring.Proofs.Watch.Labels

/-! Labels that are given more than once. The side process puts them into a table on its way from
the command line to the sweep, and of several labels with one key the table keeps the last. So the
filters of the sweep are the last labels of their keys, which are all that were given exactly if no
key comes with two values. -/

namespace Mooring

open CommandLine

namespace Record

variable {α : Type} {r : Record α} {key k : String} {value v : α}

theorem mem_put_iff (h : r.keys.Nodup) :
    (key, value) ∈ r.put k v ↔ key = k ∧ value = v ∨ key ≠ k ∧ (key, value) ∈ r := by
  induction r with
  | nil => simp [put]
  | cons entry r ih =>
    obtain ⟨k', v'⟩ := entry
    obtain ⟨hk', hr⟩ := List.nodup_cons.mp h
    have hother : (key, value) ∈ r → key ≠ k' := by
      rintro hmem rfl
      exact hk' (List.mem_map.mpr ⟨_, hmem, rfl⟩)
    rw [put]
    split
    · next heq =>
      subst heq
      simp only [List.mem_cons, Prod.mk.injEq]
      constructor
      · rintro (hnew | hmem)
        · exact .inl hnew
        · exact .inr ⟨hother hmem, .inr hmem⟩
      · rintro (hnew | ⟨hne, hold | hmem⟩)
        · exact .inl hnew
        · exact absurd hold.1 hne
        · exact .inr hmem
    · next hne =>
      simp only [List.mem_cons, Prod.mk.injEq, ih hr]
      constructor
      · rintro (⟨rfl, rfl⟩ | hnew | ⟨hkey, hmem⟩)
        · exact .inr ⟨hne, .inl ⟨rfl, rfl⟩⟩
        · exact .inl hnew
        · exact .inr ⟨hkey, .inr hmem⟩
      · rintro (hnew | ⟨hkey, hold | hmem⟩)
        · exact .inr (.inl hnew)
        · exact .inl hold
        · exact .inr (.inr ⟨hkey, hmem⟩)

theorem mem_keys_put (key k : String) (v : α) (r : Record α) :
    key ∈ (r.put k v).keys ↔ key = k ∨ key ∈ r.keys := by
  induction r with
  | nil => simp [put, keys]
  | cons entry r ih =>
    obtain ⟨k', v'⟩ := entry
    rw [put]
    split
    · next heq => simp [keys, heq]
    · simp only [keys, List.map_cons, List.mem_cons] at ih ⊢
      rw [ih, or_left_comm]

theorem nodup_keys_put (h : r.keys.Nodup) (k : String) (v : α) : (r.put k v).keys.Nodup := by
  induction r with
  | nil => simp [put, keys]
  | cons entry r ih =>
    obtain ⟨k', v'⟩ := entry
    obtain ⟨hk', hr⟩ := List.nodup_cons.mp h
    rw [put]
    split
    · exact h
    · next hne =>
      refine List.nodup_cons.mpr ⟨fun hmem => ?_, ih hr⟩
      rcases (mem_keys_put k' k v r).mp hmem with heq | hmem
      · exact hne heq
      · exact hk' hmem

/-- A table that pairs are put into has the last value of each of their keys, and its own value of
every other. -/
theorem mem_putAll_iff (h : r.keys.Nodup) {more : Record α} :
    (key, value) ∈ r.putAll more ↔
      (∃ before after, more = before ++ (key, value) :: after ∧ key ∉ keys after) ∨
        key ∉ more.keys ∧ (key, value) ∈ r := by
  induction more generalizing r with
  | nil => simp [putAll, keys]
  | cons entry more ih =>
    obtain ⟨k, v⟩ := entry
    have hput : r.putAll ((k, v) :: more) = (r.put k v).putAll more := rfl
    rw [hput, ih (nodup_keys_put h k v), mem_put_iff h]
    simp only [keys, List.map_cons, List.mem_cons, not_or]
    constructor
    · rintro (⟨before, after, rfl, hlast⟩ | ⟨hmore, ⟨rfl, rfl⟩ | ⟨hne, hmem⟩⟩)
      · exact .inl ⟨(k, v) :: before, after, rfl, hlast⟩
      · exact .inl ⟨[], more, rfl, hmore⟩
      · exact .inr ⟨⟨hne, hmore⟩, hmem⟩
    · rintro (⟨before, after, heq, hlast⟩ | ⟨⟨hne, hmore⟩, hmem⟩)
      · cases before with
        | nil =>
          cases heq
          exact .inr ⟨hlast, .inl ⟨rfl, rfl⟩⟩
        | cons first before =>
          cases heq
          exact .inl ⟨before, after, rfl, hlast⟩
      · exact .inr ⟨hmore, .inr ⟨hne, hmem⟩⟩

/-- The table of some pairs has the last value of every key. -/
theorem mem_ofPairs_iff {pairs : List (String × α)} :
    (key, value) ∈ ofPairs pairs ↔
      ∃ before after, pairs = before ++ (key, value) :: after ∧ key ∉ keys after := by
  rw [ofPairs, mem_putAll_iff (by simp [keys])]
  simp

end Record

namespace Watch

variable {text : String} {texts : List String}

/-! ### The last label of a key -/

/-- A label with no other of its key behind it. -/
def LastOf (texts : List String) (text : String) : Prop :=
  ∃ before after, texts = before ++ text :: after ∧ ∀ later ∈ after, keyOf later ≠ keyOf text

theorem LastOf.mem (h : LastOf texts text) : text ∈ texts := by
  obtain ⟨before, after, rfl, -⟩ := h
  simp

theorem LastOf.cons (h : LastOf texts text) (first : String) : LastOf (first :: texts) text := by
  obtain ⟨before, after, rfl, hlast⟩ := h
  exact ⟨first :: before, after, rfl, hlast⟩

/-- Every key that is given has a last label. -/
theorem exists_lastOf {key : String} (h : key ∈ texts.map keyOf) :
    ∃ text, LastOf texts text ∧ keyOf text = key := by
  induction texts with
  | nil => cases h
  | cons first texts ih =>
    by_cases hlater : key ∈ texts.map keyOf
    · obtain ⟨text, hlast, hkey⟩ := ih hlater
      exact ⟨text, hlast.cons first, hkey⟩
    · obtain rfl : key = keyOf first := (List.mem_cons.mp h).resolve_right hlater
      refine ⟨first, ⟨[], texts, rfl, fun later hmem hkey => hlater ?_⟩, rfl⟩
      exact List.mem_map.mpr ⟨later, hmem, hkey⟩

/-- No key has two last labels. -/
theorem LastOf.eq {other : String} (h : LastOf texts text) (h' : LastOf texts other)
    (hkey : keyOf text = keyOf other) : text = other := by
  obtain ⟨before, after, rfl, hlast⟩ := h
  obtain ⟨before', after', heq, hlast'⟩ := h'
  rcases List.append_eq_append_iff.mp heq with ⟨between, -, hrest⟩ | ⟨between, -, hrest⟩
  · cases between with
    | nil => exact (List.cons.inj hrest).1
    | cons first between =>
      have hmem : other ∈ after := by
        rw [(List.cons.inj hrest).2]
        simp
      exact absurd hkey.symm (hlast other hmem)
  · cases between with
    | nil => exact (List.cons.inj hrest).1.symm
    | cons first between =>
      have hmem : text ∈ after' := by
        rw [(List.cons.inj hrest).2]
        simp
      exact absurd hkey (hlast' text hmem)

/-- Every label is the last of its key exactly if no key comes with two values. -/
theorem forall_lastOf_iff : (∀ text ∈ texts, LastOf texts text) ↔
    ∀ text ∈ texts, ∀ other ∈ texts, keyOf text = keyOf other → text = other := by
  constructor
  · exact fun h text hmem other hother hkey => (h text hmem).eq (h other hother) hkey
  · intro h text hmem
    obtain ⟨last, hlast, hkey⟩ := exists_lastOf (List.mem_map.mpr ⟨text, hmem, rfl⟩)
    rwa [h text hmem last hlast.mem hkey.symm]

/-! ### The filters -/

/-- What the labels of a command line come to in a sweep. -/
def filtersOf (texts : List String) : List String :=
  (Record.ofPairs (labelTable texts)).map (fun (key, value) => key ++ "=" ++ value)

theorem mem_filtersOf_iff (h : ∀ text ∈ texts, IsLabel text) :
    text ∈ filtersOf texts ↔ LastOf texts text := by
  have hkeys {more : List String} (hmore : ∀ text ∈ more, text ∈ texts) :
      Record.keys (labelTable more) = more.map keyOf :=
    keys_labelTable (fun text hmem => h text (hmore text hmem))
  constructor
  · intro hmem
    obtain ⟨⟨key, value⟩, hentry, hjoined⟩ := List.mem_map.mp hmem
    obtain ⟨before, after, htable, hlast⟩ := Record.mem_ofPairs_iff.mp hentry
    obtain ⟨front, rest, rfl, -, hrest⟩ := List.filterMap_eq_append_iff.mp htable
    obtain ⟨front', last, back, rfl, -, hread, hback⟩ := List.filterMap_eq_cons_iff.mp hrest
    obtain ⟨value', hread', htext⟩ := readLabel_eq_some (h last (by simp))
    cases hread.symm.trans hread'
    obtain rfl : last = text := htext.symm.trans hjoined
    have hafter : Record.keys after = back.map keyOf := by
      rw [← hback]
      exact hkeys (fun text hmem => by simp [hmem])
    refine ⟨front ++ front', back, by rw [List.append_assoc], fun later hmem hkey => hlast ?_⟩
    rw [hafter]
    exact List.mem_map.mpr ⟨later, hmem, hkey⟩
  · rintro ⟨before, after, rfl, hlast⟩
    obtain ⟨value, hread, htext⟩ := readLabel_eq_some (h text (by simp))
    refine List.mem_map.mpr ⟨(keyOf text, value), Record.mem_ofPairs_iff.mpr
      ⟨labelTable before, labelTable after, ?_, ?_⟩, htext⟩
    · rw [labelTable, List.filterMap_append, List.filterMap_cons_some hread]
      rfl
    · rw [hkeys (fun text hmem => by simp [hmem])]
      intro hmem
      obtain ⟨later, hlater, hkey⟩ := List.mem_map.mp hmem
      exact hlast later hlater hkey

/-! ### The command line -/

variable {arguments : List String} {labels : Record String}

/-- The labels that a command line gives, in their order and as they were written. -/
def givenLabels (arguments : List String) : Except Halt (List String) := do
  let found ← readArguments grammar arguments
  refuseUnrecognized found.unrecognized
  return found.values.map (·.2)

/-- The labels are put into a table of their keys before they are used. -/
theorem readLabels_eq (arguments : List String) :
    readLabels arguments = (do
      let texts ← givenLabels arguments
      let labels := Record.ofPairs (labelTable texts)
      if labels.isEmpty then throw (.usage .noLabel) else return labels) := by
  have htable (values : List (String × String)) :
      values.filterMap (fun given => Session.readLabel given.2) =
        labelTable (values.map (·.2)) := by
    rw [labelTable, List.filterMap_map]
    rfl
  simp only [readLabels, givenLabels, bind_assoc, pure_bind, htable]

theorem isLabel_of_given (h : givenLabels arguments = .ok texts) :
    ∀ text ∈ texts, IsLabel text := by
  obtain ⟨found, hread, h⟩ := Action.exists_of_bind_eq_ok h
  obtain ⟨-, -, h⟩ := Action.exists_of_bind_eq_ok h
  cases h
  intro text hmem
  obtain ⟨given, hgiven, rfl⟩ := List.mem_map.mp hmem
  obtain ⟨option, hoption, -, hnone⟩ := accepts_of_readArguments hread given hgiven
  obtain rfl : option = labelOption := List.mem_singleton.mp hoption
  refine Classical.byContradiction (fun hlame => ?_)
  have hsome : labelRefusal given.2 = some (Problem.badLabel given.2).message := by
    rw [labelRefusal, readLabel_eq_none hlame]
  cases hnone.symm.trans hsome

/-- A command line that is accepted gives labels, and nothing else. -/
theorem exists_given (h : readLabels arguments = .ok labels) :
    ∃ texts, givenLabels arguments = .ok texts ∧ texts ≠ [] ∧
      labels = Record.ofPairs (labelTable texts) := by
  rw [readLabels_eq] at h
  obtain ⟨texts, hgiven, h⟩ := Action.exists_of_bind_eq_ok h
  simp only at h
  split at h
  · cases h
  · next hsome =>
    cases h
    refine ⟨texts, hgiven, ?_, rfl⟩
    rintro rfl
    exact hsome rfl

theorem readLabels_of_given (h : givenLabels arguments = .ok texts) (hne : texts ≠ []) :
    readLabels arguments = .ok (Record.ofPairs (labelTable texts)) := by
  obtain ⟨text, more, rfl⟩ := List.exists_cons_of_ne_nil hne
  obtain ⟨last, hlast, -⟩ : ∃ last, LastOf (text :: more) last ∧ keyOf last = keyOf text :=
    exists_lastOf (by simp)
  have hmem : last ∈ filtersOf (text :: more) :=
    (mem_filtersOf_iff (isLabel_of_given h)).mpr hlast
  have hsome : (Record.ofPairs (labelTable (text :: more))).isEmpty = false := by
    refine List.isEmpty_eq_false_iff.mpr (fun hempty => ?_)
    rw [filtersOf, hempty] at hmem
    cases hmem
  have hread : readLabels arguments =
      if (Record.ofPairs (labelTable (text :: more))).isEmpty then .error (.usage .noLabel)
      else .ok (Record.ofPairs (labelTable (text :: more))) := by
    rw [readLabels_eq, h]
    rfl
  rw [hread, hsome]
  rfl

theorem givenLabels_of_labels (hplain : ∀ text ∈ texts, StartsPlain text)
    (hlabel : ∀ text ∈ texts, IsLabel text) :
    givenLabels (labelArguments texts) = .ok texts := by
  have hread : ∀ text ∈ texts, (Session.readLabel text).isSome := by
    intro text hmem
    obtain ⟨value, hvalue, -⟩ := readLabel_eq_some (hlabel text hmem)
    rw [hvalue]
    rfl
  have hvalues : (texts.map (fun text => ("--label", text))).map (·.2) = texts := by
    rw [List.map_map]
    exact List.map_id texts
  have hgiven : givenLabels (labelArguments texts) =
      .ok ((texts.map (fun text => ("--label", text))).map (·.2)) := by
    rw [givenLabels, readArguments_labels hplain, collect_labels hread]
    rfl
  rw [hgiven, hvalues]

end Watch

end Mooring
