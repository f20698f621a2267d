import Mooring.Address.Gateway
import Mooring.Proofs.Plain
import Mooring.Proofs.Text.Hexadecimal
import Mooring.Proofs.Text.File

/-! What is found in a routing table. An address is written there as one number, its first part
lowest; each number of 32 bits is one address, and the address is found again whatever lines stand
around it. -/

namespace Mooring

/-- A plain world whose files all hold the same. -/
def World.holding (bytes : List UInt8) : World :=
  { World.plain (fun _ => none) with fileBytes := fun _ => .ok bytes }

namespace Address

open Text Mooring.Action

/-! ### Addresses -/

/-- An address of version 4. -/
structure V4 where
  first : UInt8
  second : UInt8
  third : UInt8
  fourth : UInt8
  deriving DecidableEq

namespace V4

variable (a : V4)

/-- The number that the kernel writes for an address. -/
def number : Nat :=
  a.first.toNat + 256 * a.second.toNat + 65536 * a.third.toNat + 16777216 * a.fourth.toNat

def text : String :=
  Number.natText a.first.toNat ++ "." ++ Number.natText a.second.toNat ++ "." ++
    Number.natText a.third.toNat ++ "." ++ Number.natText a.fourth.toNat

/-- The address of no machine. -/
def zero : V4 := ⟨0, 0, 0, 0⟩

theorem number_lt : a.number < 4294967296 := by
  have hfirst := a.first.toNat_lt
  have hsecond := a.second.toNat_lt
  have hthird := a.third.toNat_lt
  have hfourth := a.fourth.toNat_lt
  rw [number]
  omega

/-- The parts of a number of four bytes are the bytes. -/
theorem parts_number :
    a.number % 256 = a.first.toNat ∧ a.number / 256 % 256 = a.second.toNat ∧
      a.number / 65536 % 256 = a.third.toNat ∧ a.number / 16777216 % 256 = a.fourth.toNat := by
  have hfirst := a.first.toNat_lt
  have hsecond := a.second.toNat_lt
  have hthird := a.third.toNat_lt
  have hfourth := a.fourth.toNat_lt
  rw [number]
  omega

theorem dotted_number : dotted a.number = a.text := by
  obtain ⟨hfirst, hsecond, hthird, hfourth⟩ := a.parts_number
  have hwhole : a.number / 1 % 256 = a.first.toNat := by rw [Nat.div_one, hfirst]
  show Number.natText (a.number / 1 % 256) ++ "." ++ Number.natText (a.number / 256 % 256) ++
    "." ++ Number.natText (a.number / 65536 % 256) ++ "." ++
    Number.natText (a.number / 16777216 % 256) = a.text
  rw [hwhole, hsecond, hthird, hfourth, text]

theorem exists_number {n : Nat} (h : n < 4294967296) : ∃ a : V4, a.number = n := by
  have hbyte (m : Nat) : (UInt8.ofNat (m % 256)).toNat = m % 256 :=
    UInt8.toNat_ofNat_of_lt' (Nat.mod_lt m (by decide))
  refine ⟨⟨.ofNat (n % 256), .ofNat (n / 256 % 256), .ofNat (n / 65536 % 256),
    .ofNat (n / 16777216 % 256)⟩, ?_⟩
  simp only [number, hbyte]
  omega

/-- The parts of the text, each cut off at the next point. -/
theorem toList_text : a.text.toList =
    Nat.toDigits 10 a.first.toNat ++ '.' :: (Nat.toDigits 10 a.second.toNat ++
      '.' :: (Nat.toDigits 10 a.third.toNat ++ '.' :: Nat.toDigits 10 a.fourth.toNat)) := by
  simp [text, Number.natText]

theorem point_not_mem_toDigits (n : Nat) : '.' ∉ Nat.toDigits 10 n := by
  intro h
  have hdigit : Char.isDigit '.' = true := Nat.isDigit_of_mem_toDigits (by decide) (by decide) h
  cases hdigit

theorem toDigits_byte_injective {m n : UInt8}
    (h : Nat.toDigits 10 m.toNat = Nat.toDigits 10 n.toNat) : m = n := by
  have hnumbers := congrArg (fun ds => Nat.ofDigitChars 10 ds 0) h
  simp only [Nat.ofDigitChars_ten_toDigits] at hnumbers
  exact UInt8.toNat_inj.mp hnumbers

theorem eq_of_cut {l l' r r' : List Char} (hl : '.' ∉ l) (hl' : '.' ∉ l')
    (h : l ++ '.' :: r = l' ++ '.' :: r') : l = l' ∧ r = r' := by
  have hcut := congrArg (cutFirst '.') h
  rw [cutFirst_append hl, cutFirst_append hl'] at hcut
  exact Prod.mk.inj (Option.some.inj hcut)

/-- Two addresses are not written alike. -/
theorem text_injective {a b : V4} (h : a.text = b.text) : a = b := by
  have hchars := congrArg String.toList h
  rw [toList_text, toList_text] at hchars
  obtain ⟨hfirst, hchars⟩ :=
    eq_of_cut (point_not_mem_toDigits _) (point_not_mem_toDigits _) hchars
  obtain ⟨hsecond, hchars⟩ :=
    eq_of_cut (point_not_mem_toDigits _) (point_not_mem_toDigits _) hchars
  obtain ⟨hthird, hfourth⟩ :=
    eq_of_cut (point_not_mem_toDigits _) (point_not_mem_toDigits _) hchars
  obtain ⟨first, second, third, fourth⟩ := a
  obtain ⟨first', second', third', fourth'⟩ := b
  congr
  · exact toDigits_byte_injective hfirst
  · exact toDigits_byte_injective hsecond
  · exact toDigits_byte_injective hthird
  · exact toDigits_byte_injective hfourth

end V4

/-! ### Lines -/

/-- A line that shows the default route and its gateway. -/
def IsDefault (line : List Char) (gateway : V4) : Prop :=
  ∃ interface written more, fields line = interface :: defaultDestination :: written :: more ∧
    readInt .sixteen written = .ok gateway.number

/-- A line that shows no default route: it has no place for a gateway, it leads elsewhere, or what
stands in the place is no number of 32 bits. -/
inductive IsPassed (line : List Char) : Prop
  | short (h : (fields line).length < 3)
  | elsewhere {interface destination : List Char} {more : List (List Char)}
    (h : fields line = interface :: destination :: more)
    (hdestination : destination ≠ defaultDestination)
  | unreadable {interface destination written : List Char} {more : List (List Char)}
    (h : fields line = interface :: destination :: written :: more)
    (hwritten : ∀ n : Nat, n < 4294967296 → readInt .sixteen written ≠ .ok n)

theorem rowGateway?_of_isDefault {line : List Char} {gateway : V4} (h : IsDefault line gateway) :
    rowGateway? line = some gateway.text := by
  obtain ⟨interface, written, more, hfields, hread⟩ := h
  have hrange : 0 ≤ (gateway.number : Int) ∧ (gateway.number : Int) < Nat.pow 2 32 :=
    ⟨Int.natCast_nonneg _, Int.ofNat_lt.mpr gateway.number_lt⟩
  rw [rowGateway?, hfields]
  simp only [if_true, hread, if_pos hrange, Int.toNat_natCast, gateway.dotted_number]

theorem rowGateway?_of_isPassed {line : List Char} (h : IsPassed line) :
    rowGateway? line = none := by
  unfold rowGateway?
  cases h with
  | short hshort =>
    split
    · next hfields =>
      rw [hfields] at hshort
      exact absurd hshort (by simp)
    · rfl
  | @elsewhere interface destination more hfields hne =>
    rw [hfields]
    cases more with
    | nil => rfl
    | cons written more => exact if_neg hne
  | @unreadable interface destination written more hfields hwritten =>
    -- the destination may be the default one, so what stands behind it has to be looked at
    rw [hfields]
    cases hread : readInt .sixteen written with
    | error fault => simp only [hread, ite_self]
    | ok n =>
      simp only [hread]
      split
      · refine if_neg (fun hrange => ?_)
        obtain ⟨m, rfl⟩ := Int.eq_ofNat_of_zero_le hrange.1
        exact hwritten m (Int.ofNat_lt.mp hrange.2) hread
      · rfl

/-- Every line shows the default route or is passed over. -/
theorem isDefault_or_isPassed (line : List Char) :
    (∃ gateway, IsDefault line gateway) ∨ IsPassed line := by
  match hfields : fields line with
  | [] | [_] | [_, _] => exact .inr (.short (by simp [hfields]))
  | interface :: destination :: written :: more =>
    by_cases hdestination : destination = defaultDestination
    · subst hdestination
      by_cases hread : ∃ n : Nat, n < 4294967296 ∧ readInt .sixteen written = .ok n
      · obtain ⟨n, hn, hread⟩ := hread
        obtain ⟨gateway, rfl⟩ := V4.exists_number hn
        exact .inl ⟨gateway, interface, written, more, hfields, hread⟩
      · exact .inr (.unreadable hfields (fun n hn h => hread ⟨n, hn, h⟩))
    · exact .inr (.elsewhere hfields hdestination)

/-! ### Tables -/

/-- What is found in the lines of a table: the gateway of the first one that shows the default
route, and nothing where none does. -/
inductive Finds (ls : List (List Char)) : Option String → Prop
  | nothing (h : ∀ line ∈ ls, IsPassed line) : Finds ls none
  | gateway {before after : List (List Char)} {line : List Char} {gateway : V4}
    (hls : ls = before ++ line :: after) (hbefore : ∀ l ∈ before, IsPassed l)
    (hline : IsDefault line gateway) : Finds ls (some gateway.text)

/-- A line for the default route, with the digits of its gateway as the kernel writes them, in
capitals or not. -/
def IsWritten (line : List Char) (gateway : V4) : Prop :=
  ∃ interface written more, fields line = interface :: defaultDestination :: written :: more ∧
    asciiLower written = hexDigits 8 gateway.number

theorem IsWritten.isDefault {line : List Char} {gateway : V4} (h : IsWritten line gateway) :
    IsDefault line gateway := by
  obtain ⟨interface, written, more, hfields, hwritten⟩ := h
  exact ⟨interface, written, more, hfields,
    readInt_hexDigits (by decide) gateway.number_lt hwritten⟩

theorem findSome?_of_isDefault {before after : List (List Char)} {line : List Char} {gateway : V4}
    (hbefore : ∀ l ∈ before, IsPassed l) (hline : IsDefault line gateway) :
    (before ++ line :: after).findSome? rowGateway? = some gateway.text := by
  have hnone : before.findSome? rowGateway? = none :=
    List.findSome?_eq_none_iff.mpr (fun l hl => rowGateway?_of_isPassed (hbefore l hl))
  rw [List.findSome?_append, hnone, List.findSome?_cons, rowGateway?_of_isDefault hline]
  rfl

theorem Finds.cons {ls : List (List Char)} {line : List Char} {found : Option String}
    (hline : IsPassed line) (h : Finds ls found) : Finds (line :: ls) found := by
  cases h with
  | nothing h => exact .nothing (List.forall_mem_cons.mpr ⟨hline, h⟩)
  | gateway hls hbefore hdefault =>
    rw [hls, ← List.cons_append]
    exact .gateway rfl (List.forall_mem_cons.mpr ⟨hline, hbefore⟩) hdefault

theorem finds_findSome? (ls : List (List Char)) : Finds ls (ls.findSome? rowGateway?) := by
  induction ls with
  | nil => exact .nothing (List.forall_mem_nil _)
  | cons line ls ih =>
    rcases isDefault_or_isPassed line with ⟨gateway, hline⟩ | hline
    · rw [List.findSome?_cons, rowGateway?_of_isDefault hline]
      exact .gateway (List.nil_append _).symm (List.forall_mem_nil _) hline
    · rw [List.findSome?_cons, rowGateway?_of_isPassed hline]
      exact ih.cons hline

variable {σ : Type} {w : World} {path : String}

/-- A table is searched if it can be decoded; a fault of the bytes is passed on. -/
theorem defaultGateway_of_bytes {bytes : List UInt8} (hread : w.fileBytes path = .ok bytes) (s : σ)
    (j : Journal) : defaultGateway path w s j =
      (((decodeFile bytes).map tableGateway?).mapError (fun fault => .of (.encoding fault)),
       s, j) := by
  rw [defaultGateway, run_bind_ok run_read, hread]
  cases hdecode : decodeFile bytes <;> simp only [hdecode] <;> rfl

variable {table : List Char}

theorem defaultGateway_of_text (hread : w.fileBytes path = .ok (encode table)) (s : σ)
    (j : Journal) : defaultGateway path w s j = (.ok (tableGateway? table), s, j) := by
  rw [defaultGateway_of_bytes hread, decodeFile_eq_ok_iff.mpr rfl]
  rfl

/-- Of a table that can be read as text the gateway of the first default route is found, or else
nothing; and where all lines between the heading and a line that the kernel has written for an
address are passed over, it is that address. -/
theorem finds_gateway (hread : w.fileBytes path = .ok (encode table)) (s : σ) (j : Journal) :
    ∃ found, defaultGateway path w s j = (.ok found, s, j) ∧
      Finds ((fileLines table).drop 1) found ∧
      ∀ heading before line after gateway,
        fileLines table = heading :: (before ++ line :: after) →
        (∀ l ∈ before, IsPassed l) → IsWritten line gateway → found = some gateway.text := by
  refine ⟨tableGateway? table, defaultGateway_of_text hread s j, finds_findSome? _, ?_⟩
  intro heading before line after gateway hlines hbefore hline
  rw [tableGateway?, hlines]
  exact findSome?_of_isDefault hbefore hline.isDefault

/-- A machine on the network of a bridge. -/
def bridgeTable : List Char :=
  ("Iface\tDestination\tGateway \tFlags\tRefCnt\tUse\tMetric\tMask\n" ++
    "eth0\t0011AC00\t00000000\t0001\t0\t0\t0\t0000FFFF\n" ++
    "eth0\t00000000\t010011AC\t0003\t0\t0\t0\t00000000\n").toList

def bridge : V4 := ⟨172, 17, 0, 1⟩

def headingLine : List Char :=
  "Iface\tDestination\tGateway \tFlags\tRefCnt\tUse\tMetric\tMask".toList

def networkLine : List Char := "eth0\t0011AC00\t00000000\t0001\t0\t0\t0\t0000FFFF".toList

def bridgeLine : List Char := "eth0\t00000000\t010011AC\t0003\t0\t0\t0\t00000000".toList

theorem fileLines_bridgeTable :
    fileLines bridgeTable = headingLine :: ([networkLine] ++ bridgeLine :: []) := by
  decide +kernel

theorem isPassed_networkLine : IsPassed networkLine :=
  .elsewhere (rfl : fields networkLine = "eth0".toList :: "0011AC00".toList :: _) (by decide)

theorem isWritten_bridgeLine : IsWritten bridgeLine bridge :=
  ⟨"eth0".toList, "010011AC".toList, _, by rfl, by decide +kernel⟩

theorem finds_bridge :
    fileLines bridgeTable = headingLine :: ([networkLine] ++ bridgeLine :: []) ∧
      IsPassed networkLine ∧ IsWritten bridgeLine bridge ∧
      defaultGateway routingTable (World.holding (encode bridgeTable)) () {} =
        (.ok (some "172.17.0.1"), (), {}) := by
  have hread : (World.holding (encode bridgeTable)).fileBytes routingTable =
    .ok (encode bridgeTable) := rfl
  obtain ⟨found, hrun, -, hwritten⟩ := finds_gateway hread () {}
  refine ⟨fileLines_bridgeTable, isPassed_networkLine, isWritten_bridgeLine, ?_⟩
  rw [hrun, hwritten headingLine [networkLine] bridgeLine [] bridge fileLines_bridgeTable
    (List.forall_mem_singleton.mpr isPassed_networkLine) isWritten_bridgeLine]
  rfl

end Address

end Mooring
