import Mooring.Number.Decimal

/-! What can be wrong with one field of an input, with the code and the sentence under which it is
reported. -/

namespace Mooring

inductive Complaint where
  | notABool
  | boolUnreadable
  | notAnInt
  | intUnreadable
  | intHasFraction
  | intTooLarge
  | lessThan (bound : Int)
  | notAText
  | notATable
  /-- A rule of the field's own refused the value. -/
  | rejected (reason : String)
  | notOneOf (choices : List String)
  deriving DecidableEq, Repr

/-- A complaint about one field. -/
structure Issue where
  field : String
  complaint : Complaint
  deriving DecidableEq, Repr

namespace Complaint

def code : Complaint → String
  | .notABool => "bool_type"
  | .boolUnreadable => "bool_parsing"
  | .notAnInt => "int_type"
  | .intUnreadable => "int_parsing"
  | .intHasFraction => "int_from_float"
  | .intTooLarge => "int_parsing_size"
  | .lessThan _ => "greater_than_equal"
  | .notAText => "string_type"
  | .notATable => "dict_type"
  | .rejected _ => "value_error"
  | .notOneOf _ => "enum"

/-- Choices in quotes, the last one after an "or". -/
def alternatives : List String → String
  | [] => ""
  | [last] => "'" ++ last ++ "'"
  | [next, last] => "'" ++ next ++ "' or '" ++ last ++ "'"
  | choice :: choices => "'" ++ choice ++ "', " ++ alternatives choices

def message : Complaint → String
  | .notABool => "Input should be a valid boolean"
  | .boolUnreadable => "Input should be a valid boolean, unable to interpret input"
  | .notAnInt => "Input should be a valid integer"
  | .intUnreadable => "Input should be a valid integer, unable to parse string as an integer"
  | .intHasFraction => "Input should be a valid integer, got a number with a fractional part"
  | .intTooLarge => "Unable to parse input string as an integer, exceeded maximum size"
  | .lessThan bound => "Input should be greater than or equal to " ++ Number.intText bound
  | .notAText => "Input should be a valid string"
  | .notATable => "Input should be a valid dictionary"
  | .rejected reason => "Value error, " ++ reason
  | .notOneOf choices => "Input should be " ++ alternatives choices

end Complaint

end Mooring
