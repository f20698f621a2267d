import Mooring.Number.Decimal
import Mooring.Text.Quoted
import Mooring.Value

/-! Values as JSON on one line, in ASCII: characters beyond it appear as `\u` escapes of their
UTF-16 units. -/

namespace Mooring.Value

/-- The UTF-16 units of a character. -/
def units (c : Char) : List Nat :=
  let n := c.toNat
  if n < 0x10000 then [n]
  else [0xd800 + (n - 0x10000) / 0x400, 0xdc00 + (n - 0x10000) % 0x400]

def jsonChar (c : Char) : List Char :=
  if c = '"' ∨ c = '\\' then ['\\', c]
  else if c = '\n' then ['\\', 'n']
  else if c = '\r' then ['\\', 'r']
  else if c = '\t' then ['\\', 't']
  else if c = '\x08' then ['\\', 'b']
  else if c = '\x0c' then ['\\', 'f']
  else if 0x20 ≤ c.toNat ∧ c.toNat < 0x7f then [c]
  else (units c).flatMap (fun unit => '\\' :: 'u' :: Text.hexDigits 4 unit)

def jsonText (s : String) : String :=
  "\"" ++ String.ofList (s.toList.flatMap jsonChar) ++ "\""

mutual

def json : Value → String
  | .null => "null"
  | .bool true => "true"
  | .bool false => "false"
  | .int n => Number.intText n
  | .float x => Number.binary64Text x
  | .text s => jsonText s
  | .list items => "[" ++ ", ".intercalate (jsonItems items) ++ "]"
  | .object entries => "\x7b" ++ ", ".intercalate (jsonEntries entries) ++ "\x7d"

def jsonItems : List Value → List String
  | [] => []
  | v :: vs => json v :: jsonItems vs

def jsonEntries : List (String × Value) → List String
  | [] => []
  | (key, v) :: entries => (jsonText key ++ ": " ++ json v) :: jsonEntries entries

end

end Mooring.Value
