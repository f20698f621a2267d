import Mooring.Text.Blank
import Mooring.Text.Cut

/-! Internet addresses in text. A version 4 address is four decimal octets without leading
zeros; a version 6 address is eight groups of at most four hexadecimal digits, of which one run
may be left out as `::`, the last two may be written as a version 4 address, and a zone may
follow. -/

namespace Mooring.Address

open Mooring.Text

def isAsciiDigit (c : Char) : Bool := '0' ≤ c && c ≤ '9'

def isHexDigit (c : Char) : Bool :=
  isAsciiDigit c || ('a' ≤ c && c ≤ 'f') || ('A' ≤ c && c ≤ 'F')

/-- One to three digits, no zero in front of another digit, at most 255. -/
def isOctet (cs : List Char) : Bool :=
  !cs.isEmpty && cs.all isAsciiDigit && cs.length ≤ 3 &&
    (cs == ['0'] || cs.head? != some '0') &&
    cs.foldl (fun n c => 10 * n + (c.toNat - '0'.toNat)) 0 ≤ 255

def isV4 (cs : List Char) : Bool :=
  let octets := splitAt (· == '.') cs
  octets.length == 4 && octets.all isOctet

def isGroup (cs : List Char) : Bool :=
  !cs.isEmpty && cs.length ≤ 4 && cs.all isHexDigit

/-- The groups of a version 6 address, with a version 4 tail written as two groups. -/
def groups? (cs : List Char) : Option (List (List Char)) :=
  let parts := splitAt (· == ':') cs
  match parts.reverse with
  | [] => none
  | last :: front =>
    if parts.length < 3 then none
    else if last.contains '.' then
      if isV4 last then some (front.reverse ++ [['0'], ['0']]) else none
    else some parts

/-- Whether eight groups are all there, or one run of them is left out. -/
def completeGroups (parts : List (List Char)) : Bool :=
  let n := parts.length
  let gaps := (List.range n).filter
    (fun i => 0 < i && i + 1 < n && (parts.getD i []).isEmpty)
  match gaps with
  | [] => n == 8 && parts.all isGroup
  | [gap] =>
    let front := parts.take gap
    let back := parts.drop (gap + 1)
    let front := if front == [[]] then [] else front
    let back := if back == [[]] then [] else back
    n ≤ 9 && front.length + back.length < 8 && front.all isGroup && back.all isGroup
  | _ => false

def isV6 (cs : List Char) : Bool :=
  if cs.contains '/' then false
  else
    let (address, zone) := match cutFirst '%' cs with
      | some (address, zone) => (address, !zone.isEmpty && !zone.contains '%')
      | none => (cs, true)
    zone && (groups? address).any completeGroups

end Mooring.Address
