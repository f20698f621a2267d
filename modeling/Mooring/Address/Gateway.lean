import Mooring.Action
import Mooring.Fault.Message
import Mooring.Text.Line

/-! The default gateway in the kernel's routing table. An address stands there as one hexadecimal
number whose least byte is the first part of the address. -/

namespace Mooring.Address

open Mooring.Text Mooring.Action

variable {σ : Type}

/-- The dotted form of an address given as a number, its first part lowest. -/
def dotted (n : Nat) : String :=
  let part (i : Nat) : String := Number.natText (n / Nat.pow 256 i % 256)
  part 0 ++ "." ++ part 1 ++ "." ++ part 2 ++ "." ++ part 3

def defaultDestination : List Char := "00000000".toList

/-- The gateway of a row, where the row is a default route with an address of 32 bits. -/
def rowGateway? (row : List Char) : Option String :=
  match fields row with
  | _ :: destination :: gateway :: _ =>
    if destination = defaultDestination then
      match readInt .sixteen gateway with
      | .ok n => if 0 ≤ n ∧ n < Nat.pow 2 32 then some (dotted n.toNat) else none
      | .error _ => none
    else none
  | _ => none

/-- The gateway of the first default route below the heading of a table. -/
def tableGateway? (table : List Char) : Option String :=
  ((fileLines table).drop 1).findSome? rowGateway?

/-- Where the kernel shows its routing table. -/
def routingTable : String := "/proc/net/route"

/-- The default gateway of this machine; none where the table cannot be opened. -/
def defaultGateway (path : String) : Action σ (Option String) := do
  match (← read).fileBytes path with
  | .ok bytes =>
    let table ← ofExcept ((decodeFile bytes).mapError .encoding)
    return tableGateway? table
  | .error problem =>
    if problem.isOsTrouble then
      log .debug "Cannot read routing table"
        [("path", .text path), ("error", .text problem.message)]
      return none
    else fail (.of problem)

end Mooring.Address
