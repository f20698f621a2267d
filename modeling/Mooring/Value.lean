import Mooring.Number.Binary64
import Mooring.Record

/-! Values that arrive from outside without a fixed type: what a daemon answers, what settings are
given as, what a log line carries. -/

namespace Mooring

inductive Value where
  | null
  | bool (b : Bool)
  | int (n : Int)
  | float (x : Binary64)
  | text (s : String)
  | list (items : List Value)
  | object (entries : List (String × Value))
  deriving Repr, Inhabited

namespace Value

/-- Whether a value counts as something: not null, false, zero or empty. -/
def isSomething : Value → Bool
  | .null => false
  | .bool b => b
  | .int n => n != 0
  | .float x => !x.isZero
  | .text s => s != ""
  | .list items => !items.isEmpty
  | .object entries => !entries.isEmpty

/-- The value, or `fallback` where it counts as nothing. -/
def orElse (value fallback : Value) : Value :=
  if value.isSomething then value else fallback

/-- An entry of a table, null where it is missing. -/
def entry (table : Record Value) (key : String) : Value := (table.get? key).getD .null

def ofTexts (texts : List String) : Value := .list (texts.map .text)

def ofTextTable (table : Record String) : Value :=
  .object (table.map (fun (key, value) => (key, .text value)))

def ofOption {α : Type} (f : α → Value) : Option α → Value
  | none => .null
  | some a => f a

end Value

end Mooring
