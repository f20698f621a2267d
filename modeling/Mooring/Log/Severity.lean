import Mooring.Fault
import Mooring.Text.Case

/-! How grave a log line is, as a number, and the names under which a threshold is set. A name is
read in any case; one that is unknown stands for a fallback. -/

namespace Mooring

inductive Severity where
  | debug
  | info
  | warning
  | error
  | critical
  deriving DecidableEq, Repr

namespace Severity

def rank : Severity → Nat
  | .debug => 10
  | .info => 20
  | .warning => 30
  | .error => 40
  | .critical => 50

def label : Severity → String
  | .debug => "debug"
  | .info => "info"
  | .warning => "warning"
  | .error => "error"
  | .critical => "critical"

/-- The rank that a name stands for. -/
def rankOf? : String → Option Nat
  | "NOTSET" => some 0
  | "DEBUG" => some 10
  | "INFO" => some 20
  | "WARN" => some 30
  | "WARNING" => some 30
  | "ERROR" => some 40
  | "CRITICAL" => some 50
  | "FATAL" => some 50
  | _ => none

/-- The format that one reserved name stands for. -/
def basicFormat : String := "%(levelname)s:%(name)s:%(message)s"

/-- The table of formats that another reserved name stands for, as messages show it. -/
def formatTable : String :=
  "\x7b'%': (<class 'logging.PercentStyle'>, '%(levelname)s:%(name)s:%(message)s'), " ++
    "'\x7b': (<class 'logging.StrFormatStyle'>, " ++
    "'\x7blevelname\x7d:\x7bname\x7d:\x7bmessage\x7d'), " ++
    "'$': (<class 'logging.StringTemplateStyle'>, " ++
    "'$\x7blevelname\x7d:$\x7bname\x7d:$\x7bmessage\x7d')\x7d"

/-- The threshold that a name sets. Two names are reserved and set none. -/
def threshold (fallback : Nat) (name : String) : Except Problem Nat :=
  let name := String.ofList (Text.asciiUpper name.toList)
  match rankOf? name with
  | some rank => .ok rank
  | none =>
    if name = "BASIC_FORMAT" then .error (.unknownLevel basicFormat)
    else if name = "_STYLES" then .error (.misfit (.noLevel formatTable))
    else .ok fallback

end Severity

end Mooring
