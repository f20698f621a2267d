import Mathlib.Tactic.IntervalCases
import Mooring.Text.Utf8

/-! Bytes that are UTF-8. The bytes of a character open with one that tells how many follow and
between which bounds, so they are read as that character, whatever stands behind them, and no other
bytes are. A text is read from its encoding, and bytes that no text is encoded by are at fault. -/

namespace Mooring.Text

/-! ### The bytes of a text -/

theorem toList_loop (bs : ByteArray) (i : Nat) (read : List UInt8) :
    ByteArray.toList.loop bs i read = read.reverse ++ bs.data.toList.drop i := by
  induction i, read using ByteArray.toList.loop.induct bs with
  | case1 i read hi ih =>
    have hdata : i < bs.data.toList.length := by simpa using hi
    have hget : bs.get! i = bs.data.toList[i] := by
      rw [Array.getElem_toList]
      exact getElem!_pos bs.data i (by simpa using hi)
    rw [ByteArray.toList.loop, if_pos hi, ih, List.drop_eq_getElem_cons hdata, hget,
      List.reverse_cons, List.append_assoc, List.singleton_append]
  | case2 i read hi =>
    have hdata : bs.data.toList.length ≤ i := by simpa using hi
    rw [ByteArray.toList.loop, if_neg hi, List.drop_eq_nil_of_le hdata, List.append_nil]

theorem encode_eq_flatMap (cs : List Char) : encode cs = cs.flatMap String.utf8EncodeChar := by
  rw [encode, String.toUTF8_eq_toByteArray, String.toByteArray_ofList, ByteArray.toList,
    toList_loop, List.drop_zero, List.reverse_nil, List.nil_append, List.utf8Encode,
    List.toList_data_toByteArray]

theorem encode_nil : encode [] = [] := by rw [encode_eq_flatMap, List.flatMap_nil]

theorem encode_cons (c : Char) (cs : List Char) :
    encode (c :: cs) = String.utf8EncodeChar c ++ encode cs := by
  rw [encode_eq_flatMap, encode_eq_flatMap, List.flatMap_cons]

theorem encode_append (cs ds : List Char) : encode (cs ++ ds) = encode cs ++ encode ds := by
  rw [encode_eq_flatMap, encode_eq_flatMap, encode_eq_flatMap, List.flatMap_append]

/-- The bytes of a character: the fewer, the smaller its number is. -/
theorem utf8EncodeChar_eq (c : Char) :
    String.utf8EncodeChar c =
      if c.toNat ≤ 127 then [UInt8.ofNat c.toNat]
      else if c.toNat ≤ 2047 then
        [UInt8.ofNat (c.toNat / 64 % 32 + 192), UInt8.ofNat (c.toNat % 64 + 128)]
      else if c.toNat ≤ 65535 then
        [UInt8.ofNat (c.toNat / 4096 % 16 + 224), UInt8.ofNat (c.toNat / 64 % 64 + 128),
          UInt8.ofNat (c.toNat % 64 + 128)]
      else
        [UInt8.ofNat (c.toNat / 262144 % 8 + 240), UInt8.ofNat (c.toNat / 4096 % 64 + 128),
          UInt8.ofNat (c.toNat / 64 % 64 + 128), UInt8.ofNat (c.toNat % 64 + 128)] := rfl

/-! ### The first byte of a character -/

theorem opening?_one {n : Nat} (h : n < 128) : opening? n = some ⟨n, 0, 0x80, 0xbf⟩ := by
  rw [opening?, if_pos h]

theorem opening?_two {d : Nat} (hlow : 2 ≤ d) (hhigh : d < 32) :
    opening? (d + 192) = some ⟨d, 1, 0x80, 0xbf⟩ := by
  interval_cases d <;> rfl

theorem opening?_three {d : Nat} (h : d < 16) :
    opening? (d + 224) =
      some ⟨d, 2, if d = 0 then 0xa0 else 0x80, if d = 13 then 0x9f else 0xbf⟩ := by
  interval_cases d <;> rfl

theorem opening?_four {d : Nat} (h : d < 5) :
    opening? (d + 240) =
      some ⟨d, 3, if d = 0 then 0x90 else 0x80, if d = 4 then 0x8f else 0xbf⟩ := by
  interval_cases d <;> rfl

theorem opening?_eq_none {n : Nat} (h : 128 ≤ n ∧ n < 194 ∨ 245 ≤ n) : opening? n = none := by
  rcases h with ⟨hlow, hhigh⟩ | h
  · rw [opening?, if_neg (by omega), if_pos (by omega)]
  · unfold opening?
    repeat rw [if_neg (by omega)]

/-- No character opens otherwise. -/
theorem opening?_cases {n : Nat} {o : Opening} (h : opening? n = some o) :
    (n < 128 ∧ o = ⟨n, 0, 0x80, 0xbf⟩) ∨
      (∃ d, 2 ≤ d ∧ d < 32 ∧ n = d + 192 ∧ o = ⟨d, 1, 0x80, 0xbf⟩) ∨
      (∃ d, d < 16 ∧ n = d + 224 ∧
        o = ⟨d, 2, if d = 0 then 0xa0 else 0x80, if d = 13 then 0x9f else 0xbf⟩) ∨
      ∃ d, d < 5 ∧ n = d + 240 ∧
        o = ⟨d, 3, if d = 0 then 0x90 else 0x80, if d = 4 then 0x8f else 0xbf⟩ := by
  by_cases hone : n < 128
  · rw [opening?_one hone] at h
    exact .inl ⟨hone, (Option.some.inj h).symm⟩
  by_cases htwo : 194 ≤ n ∧ n < 224
  · obtain ⟨d, rfl⟩ : ∃ d, n = d + 192 := ⟨n - 192, by omega⟩
    rw [opening?_two (by omega) (by omega)] at h
    exact .inr (.inl ⟨d, by omega, by omega, rfl, (Option.some.inj h).symm⟩)
  by_cases hthree : 224 ≤ n ∧ n < 240
  · obtain ⟨d, rfl⟩ : ∃ d, n = d + 224 := ⟨n - 224, by omega⟩
    rw [opening?_three (by omega)] at h
    exact .inr (.inr (.inl ⟨d, by omega, rfl, (Option.some.inj h).symm⟩))
  by_cases hfour : 240 ≤ n ∧ n < 245
  · obtain ⟨d, rfl⟩ : ∃ d, n = d + 240 := ⟨n - 240, by omega⟩
    rw [opening?_four (by omega)] at h
    exact .inr (.inr (.inr ⟨d, by omega, rfl, (Option.some.inj h).symm⟩))
  · rw [opening?_eq_none (by omega)] at h
    cases h

/-! ### The bytes that follow it -/

/-- One more byte of a character, between its bounds. -/
theorem follow_cons {n value low high d c : Nat} {bs : List UInt8} (hd : d < 64)
    (hlow : low ≤ d + 128) (hhigh : d + 128 ≤ high)
    (h : follow n (value * 64 + d) 0x80 0xbf bs = .ok c) :
    follow (n + 1) value low high (UInt8.ofNat (d + 128) :: bs) = .ok c := by
  have hb : (UInt8.ofNat (d + 128)).toNat = d + 128 :=
    UInt8.toNat_ofNat_of_lt' (Nat.lt_trans (Nat.add_lt_add_right hd 128) (by decide))
  rw [follow, hb, if_pos ⟨hlow, hhigh⟩, Nat.add_sub_cancel, h]

theorem exists_of_follow {n value low high c : Nat} {bs : List UInt8} (hlow : 128 ≤ low)
    (h : follow (n + 1) value low high bs = .ok c) :
    ∃ d rest, bs = UInt8.ofNat (d + 128) :: rest ∧ low ≤ d + 128 ∧ d + 128 ≤ high ∧
      follow n (value * 64 + d) 0x80 0xbf rest = .ok c := by
  cases bs with
  | nil => cases h
  | cons b rest =>
    rw [follow] at h
    split at h
    · next hb =>
      have hd : b.toNat - 128 + 128 = b.toNat := Nat.sub_add_cancel (hlow.trans hb.1)
      refine ⟨b.toNat - 128, rest, by rw [hd, UInt8.ofNat_toNat], ?_, ?_, ?_⟩
      · rw [hd]
        exact hb.1
      · rw [hd]
        exact hb.2
      · split at h
        · next hrest =>
          cases h
          exact hrest
        · cases h
    · cases h

/-! ### One character -/

theorem decodeFirst_of_opening {n value low high : Nat} {c : Char} {more bs : List UInt8}
    (hn : n < 256) (ho : opening? n = some ⟨value, more.length, low, high⟩)
    (h : follow more.length value low high (more ++ bs) = .ok c.toNat) :
    decodeFirst (UInt8.ofNat n) (more ++ bs) = .ok (c, more.length + 1) := by
  rw [decodeFirst, UInt8.toNat_ofNat_of_lt' hn, ho]
  simp only [h, Char.ofNat_toNat]

/-- A character is read from its bytes, whatever stands behind them. -/
theorem exists_decodeFirst (c : Char) :
    ∃ b more, String.utf8EncodeChar c = b :: more ∧
      ∀ bs, decodeFirst b (more ++ bs) = .ok (c, more.length + 1) := by
  have hvalid : c.toNat < 0xd800 ∨ 0xdfff < c.toNat ∧ c.toNat < 0x110000 := c.valid
  have hlast {value : Nat} (bs : List UInt8) (h : value = c.toNat) :
      follow 0 value 0x80 0xbf bs = .ok c.toNat := by
    rw [follow, h]
  rw [utf8EncodeChar_eq]
  split
  · next h =>
    refine ⟨_, [], rfl, fun bs => decodeFirst_of_opening (by omega) (opening?_one (by omega)) ?_⟩
    exact hlast _ rfl
  split
  · next h hsize =>
    refine ⟨_, [_], rfl, fun bs =>
      decodeFirst_of_opening (by omega) (opening?_two (by omega) (by omega)) ?_⟩
    exact follow_cons (by omega) (by omega) (by omega) (hlast _ (by omega))
  split
  -- from three bytes on, the bounds of the second byte keep out what fewer bytes encode, the
  -- surrogates and what is no character
  · next h hsize =>
    refine ⟨_, [_, _], rfl, fun bs => decodeFirst_of_opening (by omega)
      (opening?_three (by omega)) (follow_cons (by omega) ?_ ?_ ?_)⟩
    · split <;> omega
    · split <;> omega
    · exact follow_cons (by omega) (by omega) (by omega) (hlast _ (by omega))
  · next h hsize =>
    refine ⟨_, [_, _, _], rfl, fun bs => decodeFirst_of_opening (by omega)
      (opening?_four (by omega)) (follow_cons (by omega) ?_ ?_ ?_)⟩
    · split <;> omega
    · split <;> omega
    · exact follow_cons (by omega) (by omega) (by omega)
        (follow_cons (by omega) (by omega) (by omega) (hlast _ (by omega)))

/-! ### The bytes of a number -/

section Numbers

variable {d d₁ d₂ d₃ : Nat}

theorem toNat_ofNat_of_isValidChar {n : Nat} (h : n.isValidChar) : (Char.ofNat n).toNat = n := by
  rw [Char.ofNat, dif_pos h]
  rfl

theorem encodeChar_one (h : d < 128) : String.utf8EncodeChar (Char.ofNat d) = [UInt8.ofNat d] := by
  have hc : (Char.ofNat d).toNat = d := toNat_ofNat_of_isValidChar (.inl (by omega))
  rw [utf8EncodeChar_eq, hc, if_pos (by omega)]

theorem encodeChar_two (hlow : 2 ≤ d) (hhigh : d < 32) (h₁ : d₁ < 64) :
    String.utf8EncodeChar (Char.ofNat (d * 64 + d₁)) =
      [UInt8.ofNat (d + 192), UInt8.ofNat (d₁ + 128)] := by
  have hc : (Char.ofNat (d * 64 + d₁)).toNat = d * 64 + d₁ :=
    toNat_ofNat_of_isValidChar (.inl (by omega))
  rw [utf8EncodeChar_eq, hc, if_neg (by omega), if_pos (by omega),
    show (d * 64 + d₁) / 64 % 32 = d by omega, show (d * 64 + d₁) % 64 = d₁ by omega]

theorem encodeChar_three (h : d < 16) (h₁ : d₁ < 64) (h₂ : d₂ < 64)
    (hlow : d = 0 → 32 ≤ d₁) (hhigh : d = 13 → d₁ < 32) :
    String.utf8EncodeChar (Char.ofNat ((d * 64 + d₁) * 64 + d₂)) =
      [UInt8.ofNat (d + 224), UInt8.ofNat (d₁ + 128), UInt8.ofNat (d₂ + 128)] := by
  have hc : (Char.ofNat ((d * 64 + d₁) * 64 + d₂)).toNat = (d * 64 + d₁) * 64 + d₂ :=
    toNat_ofNat_of_isValidChar (by unfold Nat.isValidChar; omega)
  rw [utf8EncodeChar_eq, hc, if_neg (by omega), if_neg (by omega), if_pos (by omega),
    show ((d * 64 + d₁) * 64 + d₂) / 4096 % 16 = d by omega,
    show ((d * 64 + d₁) * 64 + d₂) / 64 % 64 = d₁ by omega,
    show ((d * 64 + d₁) * 64 + d₂) % 64 = d₂ by omega]

theorem encodeChar_four (h : d < 5) (h₁ : d₁ < 64) (h₂ : d₂ < 64) (h₃ : d₃ < 64)
    (hlow : d = 0 → 16 ≤ d₁) (hhigh : d = 4 → d₁ < 16) :
    String.utf8EncodeChar (Char.ofNat (((d * 64 + d₁) * 64 + d₂) * 64 + d₃)) =
      [UInt8.ofNat (d + 240), UInt8.ofNat (d₁ + 128), UInt8.ofNat (d₂ + 128),
        UInt8.ofNat (d₃ + 128)] := by
  have hc : (Char.ofNat (((d * 64 + d₁) * 64 + d₂) * 64 + d₃)).toNat =
      ((d * 64 + d₁) * 64 + d₂) * 64 + d₃ :=
    toNat_ofNat_of_isValidChar (by unfold Nat.isValidChar; omega)
  rw [utf8EncodeChar_eq, hc, if_neg (by omega), if_neg (by omega), if_neg (by omega),
    show (((d * 64 + d₁) * 64 + d₂) * 64 + d₃) / 262144 % 8 = d by omega,
    show (((d * 64 + d₁) * 64 + d₂) * 64 + d₃) / 4096 % 64 = d₁ by omega,
    show (((d * 64 + d₁) * 64 + d₂) * 64 + d₃) / 64 % 64 = d₂ by omega,
    show (((d * 64 + d₁) * 64 + d₂) * 64 + d₃) % 64 = d₃ by omega]

end Numbers

/-- What is read as a character are its bytes. -/
theorem eq_of_decodeFirst {b : UInt8} {bs : List UInt8} {c : Char} {size : Nat}
    (h : decodeFirst b bs = .ok (c, size)) :
    ∃ more rest, bs = more ++ rest ∧ size = more.length + 1 ∧
      String.utf8EncodeChar c = b :: more := by
  rw [decodeFirst] at h
  split at h
  · cases h
  next o ho =>
  split at h
  case h_2 => cases h
  next value hvalue =>
  cases h
  have hb {n : Nat} (hn : b.toNat = n) : b = UInt8.ofNat n := by rw [← hn, UInt8.ofNat_toNat]
  rcases opening?_cases ho with ⟨hd, rfl⟩ | ⟨d, hlow, hhigh, hn, rfl⟩ | ⟨d, hd, hn, rfl⟩ |
    ⟨d, hd, hn, rfl⟩
  · cases hvalue
    exact ⟨[], bs, rfl, rfl, by rw [encodeChar_one hd, UInt8.ofNat_toNat]⟩
  · obtain ⟨d₁, rest, rfl, -, hhigh₁, hvalue⟩ := exists_of_follow (Nat.le_refl 128) hvalue
    cases hvalue
    refine ⟨[_], rest, rfl, rfl, ?_⟩
    dsimp only at hhigh₁
    rw [encodeChar_two hlow hhigh (by omega), hb hn]
  · obtain ⟨d₁, rest, rfl, hlow₁, hhigh₁, hvalue⟩ :=
      exists_of_follow (by dsimp only; split <;> decide) hvalue
    obtain ⟨d₂, rest, rfl, -, hhigh₂, hvalue⟩ := exists_of_follow (Nat.le_refl 128) hvalue
    cases hvalue
    refine ⟨[_, _], rest, rfl, rfl, ?_⟩
    dsimp only at hlow₁ hhigh₁
    rw [encodeChar_three hd (by split at hhigh₁ <;> omega) (by omega)
      (by split at hlow₁ <;> omega) (by split at hhigh₁ <;> omega), hb hn]
  · obtain ⟨d₁, rest, rfl, hlow₁, hhigh₁, hvalue⟩ :=
      exists_of_follow (by dsimp only; split <;> decide) hvalue
    obtain ⟨d₂, rest, rfl, -, hhigh₂, hvalue⟩ := exists_of_follow (Nat.le_refl 128) hvalue
    obtain ⟨d₃, rest, rfl, -, hhigh₃, hvalue⟩ := exists_of_follow (Nat.le_refl 128) hvalue
    cases hvalue
    refine ⟨[_, _, _], rest, rfl, rfl, ?_⟩
    dsimp only at hlow₁ hhigh₁
    rw [encodeChar_four hd (by split at hhigh₁ <;> omega) (by omega) (by omega)
      (by split at hlow₁ <;> omega) (by split at hhigh₁ <;> omega), hb hn]

/-! ### Texts -/

theorem decodeLossy_encode (cs : List Char) : decodeLossy (encode cs) = cs := by
  induction cs with
  | nil => rw [encode_nil, decodeLossy]
  | cons c cs ih =>
    obtain ⟨b, more, hc, hfirst⟩ := exists_decodeFirst c
    rw [encode_cons, hc, List.cons_append, decodeLossy, hfirst]
    simp [ih]

/-- A text is read from its bytes, and what stands behind them as it would be without them. -/
theorem decodeFrom_encode_append (offset : Nat) (cs : List Char) (bs : List UInt8) :
    decodeFrom offset (encode cs ++ bs) =
      (decodeFrom (offset + (encode cs).length) bs).map (cs ++ ·) := by
  induction cs generalizing offset with
  | nil =>
    rw [encode_nil]
    cases h : decodeFrom offset bs <;> simp [h, Except.map]
  | cons c cs ih =>
    obtain ⟨b, more, hc, hfirst⟩ := exists_decodeFirst c
    have hlength : offset + (encode (c :: cs)).length =
        offset + (more.length + 1) + (encode cs).length := by
      rw [encode_cons, hc, List.length_append, List.length_cons]
      omega
    rw [hlength, encode_cons, hc, List.append_assoc, List.cons_append, decodeFrom, hfirst]
    simp only [Nat.add_sub_cancel, List.drop_left, ih]
    cases decodeFrom (offset + (more.length + 1) + (encode cs).length) bs <;> rfl

theorem decode_encode (cs : List Char) : decode (encode cs) = .ok cs := by
  have h := decodeFrom_encode_append 0 cs []
  rw [List.append_nil, decodeFrom] at h
  rw [decode, h, Except.map, List.append_nil]

theorem eq_encode_of_decodeFrom {offset : Nat} {bs : List UInt8} {cs : List Char}
    (h : decodeFrom offset bs = .ok cs) : bs = encode cs := by
  induction offset, bs using decodeFrom.induct generalizing cs with
  | case1 offset =>
    rw [decodeFrom] at h
    cases h
    exact encode_nil.symm
  | case2 offset b bs c size hfirst ih =>
    rw [decodeFrom, hfirst] at h
    obtain ⟨more, rest, rfl, rfl, hc⟩ := eq_of_decodeFirst hfirst
    simp only [Nat.add_sub_cancel, List.drop_left] at h ih
    cases hrest : decodeFrom (offset + (more.length + 1)) rest with
    | error fault =>
      rw [hrest] at h
      cases h
    | ok ds =>
      rw [hrest] at h
      cases h
      rw [encode_cons, hc, List.cons_append, ← ih hrest]
  | case3 offset b bs size reason hfirst =>
    rw [decodeFrom, hfirst] at h
    cases h

/-- Bytes are read without a fault exactly if they encode a text. -/
theorem decode_eq_ok_iff {bs : List UInt8} {cs : List Char} :
    decode bs = .ok cs ↔ bs = encode cs :=
  ⟨eq_encode_of_decodeFrom, fun h => h ▸ decode_encode cs⟩

/-- A byte that no character begins with is in no text, wherever it stands between characters. -/
theorem encode_append_ne_encode {b : UInt8} (h : opening? b.toNat = none) (cs ds : List Char)
    (bs : List UInt8) : encode cs ++ b :: bs ≠ encode ds := by
  intro heq
  have hdecode := decode_eq_ok_iff.mpr heq
  have hfirst : decodeFirst b bs = .error (1, .invalidStart) := by rw [decodeFirst, h]
  rw [decode, decodeFrom_encode_append, decodeFrom, hfirst] at hdecode
  cases hdecode

end Mooring.Text
