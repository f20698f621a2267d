/-! Bytes read as UTF-8. A byte that no character can begin with, and each maximal cut-off start
of a character, is one fault: `decodeLossy` puts the replacement character there, `decode`
stops at the first. A file is decoded in pieces, as it is read. -/

namespace Mooring.Text

/-- Why bytes are not UTF-8: the offset of the fault, its bytes, and what is wrong with them. -/
inductive Utf8Reason where
  | invalidStart
  | invalidContinuation
  | unexpectedEnd
  deriving DecidableEq, Repr

structure Utf8Fault where
  offset : Nat
  bytes : List UInt8
  reason : Utf8Reason
  deriving DecidableEq, Repr

def encodeChar (c : Char) : List UInt8 := (String.singleton c).toUTF8.toList

def encode (cs : List Char) : List UInt8 := (String.ofList cs).toUTF8.toList

/-- How a character goes on after its first byte: how many bytes follow and between which bounds
the next of them lies. No further byte of a character is bounded more tightly than `0x80` to
`0xbf`. -/
structure Opening where
  value : Nat
  following : Nat
  low : Nat
  high : Nat

def opening? (b : Nat) : Option Opening :=
  if b < 0x80 then some ⟨b, 0, 0x80, 0xbf⟩
  else if b < 0xc2 then none
  else if b < 0xe0 then some ⟨b - 0xc0, 1, 0x80, 0xbf⟩
  else if b = 0xe0 then some ⟨0, 2, 0xa0, 0xbf⟩
  else if b = 0xed then some ⟨0xd, 2, 0x80, 0x9f⟩
  else if b < 0xf0 then some ⟨b - 0xe0, 2, 0x80, 0xbf⟩
  else if b = 0xf0 then some ⟨0, 3, 0x90, 0xbf⟩
  else if b < 0xf4 then some ⟨b - 0xf0, 3, 0x80, 0xbf⟩
  else if b = 0xf4 then some ⟨4, 3, 0x80, 0x8f⟩
  else none

/-- Takes the bytes that a character still needs. Answers the character, or how many of the bytes
belong to its cut-off start and whether the input ended there. -/
def follow : (following value low high : Nat) → List UInt8 → Except (Nat × Utf8Reason) Nat
  | 0, value, _, _, _ => .ok value
  | _ + 1, _, _, _, [] => .error (0, .unexpectedEnd)
  | n + 1, value, low, high, b :: bs =>
    if low ≤ b.toNat ∧ b.toNat ≤ high then
      match follow n (value * 64 + (b.toNat - 0x80)) 0x80 0xbf bs with
      | .ok c => .ok c
      | .error (taken, reason) => .error (taken + 1, reason)
    else .error (0, .invalidContinuation)

/-- One character or one fault in front of the bytes, and how many bytes it takes. -/
def decodeFirst (b : UInt8) (bs : List UInt8) : Except (Nat × Utf8Reason) (Char × Nat) :=
  match opening? b.toNat with
  | none => .error (1, .invalidStart)
  | some o =>
    match follow o.following o.value o.low o.high bs with
    | .ok value => .ok (Char.ofNat value, o.following + 1)
    | .error (taken, reason) => .error (taken + 1, reason)

def decodeLossy : List UInt8 → List Char
  | [] => []
  | b :: bs =>
    match decodeFirst b bs with
    | .ok (c, size) => c :: decodeLossy (bs.drop (size - 1))
    | .error (size, _) => '\ufffd' :: decodeLossy (bs.drop (size - 1))
  termination_by bs => bs.length

def decodeFrom (offset : Nat) : List UInt8 → Except Utf8Fault (List Char)
  | [] => .ok []
  | b :: bs =>
    match decodeFirst b bs with
    | .ok (c, size) => (decodeFrom (offset + size) (bs.drop (size - 1))).map (c :: ·)
    | .error (size, reason) => .error ⟨offset, (b :: bs).take size, reason⟩
  termination_by bs => bs.length

def decode (bs : List UInt8) : Except Utf8Fault (List Char) := decodeFrom 0 bs

/-! ### Piece by piece -/

/-- The characters of a piece, and the start of a character that the piece may have cut off. -/
def decodePiece (bs : List UInt8) : Except Utf8Fault (List Char × List UInt8) :=
  match decode bs with
  | .ok cs => .ok (cs, [])
  | .error fault =>
    if fault.reason = .unexpectedEnd then
      (decode (bs.take fault.offset)).map (fun cs => (cs, fault.bytes))
    else .error fault

/-- How many bytes of a file are read at a time. -/
def pieceSize : Nat := 8192

/-- Decodes a file as it is read, each piece behind what the one before left over. A fault is placed
by its offset in the piece, counted from what was left over. -/
def decodePieces (left : List UInt8) (bs : List UInt8) : Except Utf8Fault (List Char) :=
  match bs with
  | [] => decode left
  | b :: bs => do
    let (cs, left) ← decodePiece (left ++ (b :: bs).take pieceSize)
    return cs ++ (← decodePieces left ((b :: bs).drop pieceSize))
  termination_by bs.length
  decreasing_by
    simp only [List.length_drop, List.length_cons, pieceSize]
    omega

/-- The text of a file. -/
def decodeFile (bs : List UInt8) : Except Utf8Fault (List Char) := decodePieces [] bs

end Mooring.Text
