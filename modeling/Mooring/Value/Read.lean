import Mooring.Fault
import Mooring.Text.Cut
import Mooring.Value.Print

/-! Numbers and words read out of values of any type. A value that cannot hold what is asked for is
a misfit. -/

namespace Mooring

/-- The whole number that a value is or writes. -/
def Value.toInt : Value → Except Problem Int
  | .bool b => .ok (if b then 1 else 0)
  | .int n => .ok n
  | .float x => .ok x.truncate
  | .text s => (Text.readInt .ten s.toList).mapError .numeral
  | v => .error (.misfit (.noNumber v.typeName))

/-- The table that a value is. -/
def Value.table : Value → Except Problem (Record Value)
  | .object entries => .ok entries
  | v => .error (.misfit (.noMember v.typeName "get"))

/-- Whether a word occurs in a text, is an item of a list or is a key of a table. -/
def Value.holds (word : String) : Value → Except Problem Bool
  | .text s => .ok (Text.occursIn word.toList s.toList)
  | .list items => .ok (items.any (fun item => match item with
      | .text s => s == word
      | _ => false))
  | .object entries => .ok (Record.contains entries word)
  | v => .error (.misfit (.noContents v.typeName))

end Mooring
