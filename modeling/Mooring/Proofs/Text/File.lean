import Mooring.Proofs.Run
import Mooring.Proofs.Text.Utf8

/-! Text files, decoded as they are read. A piece may end within a character; the bytes that are
left over then stand in front of the next piece. Wherever the pieces end, a file is read without a
fault exactly if its bytes encode a text, and that text is what is read. -/

namespace Mooring.Text

/-! ### Cut-off characters -/

theorem follow_of_cutOff {n value low high c : Nat} {cut rest : List UInt8}
    (h : follow n value low high (cut ++ rest) = .ok c) (hlength : cut.length < n) :
    follow n value low high cut = .error (cut.length, .unexpectedEnd) := by
  induction cut generalizing n value low high with
  | nil =>
    obtain ⟨n, rfl⟩ := Nat.exists_eq_add_one_of_ne_zero (Nat.ne_of_gt hlength)
    rfl
  | cons b cut ih =>
    obtain ⟨n, rfl⟩ := Nat.exists_eq_add_one_of_ne_zero (Nat.ne_of_gt (Nat.zero_lt_of_lt hlength))
    rw [List.cons_append, follow] at h
    split at h
    · next hb =>
      split at h
      · next hvalue =>
        cases h
        rw [follow, if_pos hb, ih hvalue (Nat.lt_of_succ_lt_succ hlength), List.length_cons]
      · cases h
    · cases h

/-- A character that is cut off takes all the bytes that are there. -/
theorem decodeFirst_of_cutOff {b : UInt8} {cut rest : List UInt8} {c : Char} {size : Nat}
    (h : decodeFirst b (cut ++ rest) = .ok (c, size)) (hlength : cut.length + 1 < size) :
    decodeFirst b cut = .error (cut.length + 1, .unexpectedEnd) := by
  rw [decodeFirst] at h ⊢
  split at h
  · cases h
  · next o ho =>
    split at h
    · next value hvalue =>
      cases h
      simp only [follow_of_cutOff hvalue (Nat.lt_of_succ_lt_succ hlength)]
    · cases h

theorem length_of_follow {n value low high taken : Nat} {bs : List UInt8}
    (h : follow n value low high bs = .error (taken, .unexpectedEnd)) : taken = bs.length := by
  induction bs generalizing n value low high taken with
  | nil =>
    cases n with
    | zero => cases h
    | succ n =>
      cases h
      rfl
  | cons b bs ih =>
    cases n with
    | zero => cases h
    | succ n =>
      rw [follow] at h
      split at h
      · split at h
        · cases h
        · next hrest =>
          cases h
          rw [ih hrest, List.length_cons]
      · cases h

theorem size_of_decodeFirst {b : UInt8} {bs : List UInt8} {size : Nat}
    (h : decodeFirst b bs = .error (size, .unexpectedEnd)) : size = (b :: bs).length := by
  rw [decodeFirst] at h
  split at h
  · cases h
  · split at h
    · cases h
    · next hfollow =>
      cases h
      rw [length_of_follow hfollow, List.length_cons]

/-- Where bytes end within a character, the fault is the rest of them. -/
theorem bytes_of_cutOff {offset : Nat} {bs : List UInt8} {fault : Utf8Fault}
    (h : decodeFrom offset bs = .error fault) (hreason : fault.reason = .unexpectedEnd) :
    offset ≤ fault.offset ∧ fault.bytes = bs.drop (fault.offset - offset) := by
  induction offset, bs using decodeFrom.induct with
  | case1 offset =>
    rw [decodeFrom] at h
    cases h
  | case2 offset b bs c size hfirst ih =>
    rw [decodeFrom, hfirst] at h
    obtain ⟨more, rest, rfl, rfl, -⟩ := eq_of_decodeFirst hfirst
    simp only [Nat.add_sub_cancel, List.drop_left] at h ih
    cases hrest : decodeFrom (offset + (more.length + 1)) rest with
    | ok cs =>
      rw [hrest] at h
      cases h
    | error fault' =>
      rw [hrest] at h
      cases h
      obtain ⟨hoffset, hbytes⟩ := ih hrest
      refine ⟨by omega, ?_⟩
      have hdrop : fault.offset - offset =
          (b :: more).length + (fault.offset - (offset + (more.length + 1))) := by
        rw [List.length_cons]
        omega
      rw [hbytes, hdrop, ← List.cons_append, List.drop_length_add_append]
  | case3 offset b bs size reason hfirst =>
    rw [decodeFrom, hfirst] at h
    cases h
    cases hreason
    rw [size_of_decodeFirst hfirst, List.take_length, Nat.sub_self]
    exact ⟨Nat.le_refl _, rfl⟩

/-! ### Pieces -/

theorem eq_of_decodePiece {bs left : List UInt8} {cs : List Char}
    (h : decodePiece bs = .ok (cs, left)) : bs = encode cs ++ left := by
  rw [decodePiece] at h
  split at h
  · next hdecode =>
    cases h
    rw [List.append_nil, decode_eq_ok_iff.mp hdecode]
  · next fault hfault =>
    split at h
    · next hreason =>
      obtain ⟨-, hbytes⟩ := bytes_of_cutOff hfault hreason
      cases hwhole : decode (bs.take fault.offset) with
      | error fault' =>
        rw [hwhole] at h
        cases h
      | ok ds =>
        rw [hwhole] at h
        cases h
        rw [← decode_eq_ok_iff.mp hwhole, hbytes, Nat.sub_zero, List.take_append_drop]
    · cases h

/-- The start of a character that is cut off there. -/
def CutOff (bs : List UInt8) : Prop :=
  ∃ b cut, bs = b :: cut ∧ decodeFirst b cut = .error (cut.length + 1, .unexpectedEnd)

/-- The bytes of a character, cut anywhere. -/
theorem cutOff_of_encodeChar {c : Char} {bs more : List UInt8}
    (h : String.utf8EncodeChar c = bs ++ more) : bs = [] ∨ more = [] ∨ CutOff bs := by
  obtain ⟨b, following, hc, hfirst⟩ := exists_decodeFirst c
  rw [hc] at h
  cases bs with
  | nil => exact .inl rfl
  | cons b' cut =>
    rw [List.cons_append] at h
    obtain ⟨rfl, rfl⟩ := List.cons.inj h
    cases more with
    | nil => exact .inr (.inl rfl)
    | cons next more =>
      have hshort : cut.length + 1 < (cut ++ next :: more).length + 1 := by
        rw [List.length_append, List.length_cons]
        omega
      have hwhole := hfirst []
      rw [List.append_nil] at hwhole
      exact .inr (.inr ⟨b, cut, rfl, decodeFirst_of_cutOff hwhole hshort⟩)

/-- A piece of an encoded text encodes some characters, and may have the start of one more. -/
theorem exists_of_piece {bs rest : List UInt8} {cs : List Char} (h : bs ++ rest = encode cs) :
    ∃ before left after, cs = before ++ after ∧ bs = encode before ++ left ∧
      left ++ rest = encode after ∧ (left = [] ∨ CutOff left) := by
  induction cs generalizing bs with
  | nil =>
    rw [encode_nil] at h
    obtain ⟨rfl, rfl⟩ := List.append_eq_nil_iff.mp h
    exact ⟨[], [], [], rfl, by rw [encode_nil, List.append_nil], encode_nil.symm, .inl rfl⟩
  | cons c cs ih =>
    have hwithin (more : List UInt8) (hc : String.utf8EncodeChar c ++ more = bs)
        (hmore : more ++ rest = encode cs) :
        ∃ before left after, c :: cs = before ++ after ∧ bs = encode before ++ left ∧
          left ++ rest = encode after ∧ (left = [] ∨ CutOff left) := by
      obtain ⟨before, left, after, rfl, rfl, hafter, hcut⟩ := ih hmore
      refine ⟨c :: before, left, after, rfl, ?_, hafter, hcut⟩
      rw [encode_cons, List.append_assoc, hc]
    rcases List.append_eq_append_iff.mp (h.trans (encode_cons c cs)) with
      ⟨more, hc, hrest⟩ | ⟨more, hbs, hmore⟩
    · -- the piece ends within the character or at its end
      have hstart : ∀ hcut : bs = [] ∨ CutOff bs,
          ∃ before left after, c :: cs = before ++ after ∧ bs = encode before ++ left ∧
            left ++ rest = encode after ∧ (left = [] ∨ CutOff left) := fun hcut =>
        ⟨[], bs, c :: cs, rfl, by rw [encode_nil, List.nil_append], h, hcut⟩
      rcases cutOff_of_encodeChar hc with hnil | rfl | hcut
      · exact hstart (.inl hnil)
      · exact hwithin [] (by rw [hc, List.append_nil, List.append_nil]) hrest
      · exact hstart (.inr hcut)
    · exact hwithin more hbs.symm hmore.symm

theorem decodePiece_of_cutOff (cs : List Char) {left : List UInt8} (h : left = [] ∨ CutOff left) :
    decodePiece (encode cs ++ left) = .ok (cs, left) := by
  have hdecode := decodeFrom_encode_append 0 cs left
  rcases h with rfl | ⟨b, cut, rfl, hfirst⟩
  · rw [List.append_nil, decodePiece, decode_encode]
  · rw [decodeFrom, hfirst] at hdecode
    rw [decodePiece, decode, hdecode]
    simp [Except.map, decode_encode]

/-- A file is read without a fault exactly if what is left over and the rest of it encode a text,
wherever its pieces end. -/
theorem decodePieces_eq_ok_iff {left bs : List UInt8} {cs : List Char} :
    decodePieces left bs = .ok cs ↔ left ++ bs = encode cs := by
  induction left, bs using decodePieces.induct generalizing cs with
  | case1 left => rw [decodePieces, decode_eq_ok_iff, List.append_nil]
  | case2 left b bs ih =>
    have hpieces : left ++ b :: bs =
        (left ++ (b :: bs).take pieceSize) ++ (b :: bs).drop pieceSize := by
      rw [List.append_assoc, List.take_append_drop]
    rw [decodePieces, hpieces]
    constructor
    · intro h
      obtain ⟨⟨ds, left'⟩, hpiece, h⟩ := Action.exists_of_bind_eq_ok h
      obtain ⟨more, hmore, h⟩ := Action.exists_of_bind_eq_ok h
      cases h
      rw [eq_of_decodePiece hpiece, List.append_assoc, (ih left').mp hmore, encode_append]
    · intro h
      obtain ⟨before, left', after, rfl, hpiece, hafter, hcut⟩ := exists_of_piece h
      rw [hpiece, decodePiece_of_cutOff before hcut]
      show (decodePieces left' _ >>= _) = _
      rw [(ih left').mpr hafter]
      rfl

/-- A file is read exactly if it is the encoding of a text. -/
theorem decodeFile_eq_ok_iff {bs : List UInt8} {cs : List Char} :
    decodeFile bs = .ok cs ↔ bs = encode cs := by
  rw [decodeFile, decodePieces_eq_ok_iff, List.nil_append]

end Mooring.Text
