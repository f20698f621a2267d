import Mooring.Number.Decimal
import Mooring.Text.Quoted
import Mooring.Value

/-! Values in messages. `display` shows a text as it is and anything else as `literal` does;
`literal` puts texts in quotes, so that a list shows where each of its items ends. -/

namespace Mooring.Value

def quote (s : String) : String := String.ofList (Text.quoted s.toList)

mutual

def literal : Value → String
  | .null => "None"
  | .bool true => "True"
  | .bool false => "False"
  | .int n => Number.intText n
  | .float x => Number.binary64Text x
  | .text s => quote s
  | .list items => "[" ++ ", ".intercalate (literals items) ++ "]"
  | .object entries => "\x7b" ++ ", ".intercalate (entryLiterals entries) ++ "\x7d"

def literals : List Value → List String
  | [] => []
  | v :: vs => literal v :: literals vs

def entryLiterals : List (String × Value) → List String
  | [] => []
  | (key, v) :: entries => (quote key ++ ": " ++ literal v) :: entryLiterals entries

end

/-- A value inside a sentence. -/
def display : Value → String
  | .text s => s
  | v => literal v

/-- The name of a value's type, as messages give it. -/
def typeName : Value → String
  | .null => "NoneType"
  | .bool _ => "bool"
  | .int _ => "int"
  | .float _ => "float"
  | .text _ => "str"
  | .list _ => "list"
  | .object _ => "dict"

end Mooring.Value
