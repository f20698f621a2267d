import Mooring.Call

/-! The journal of a run: every call, every log line and everything handed to the console, in order,
with the time that has passed. -/

namespace Mooring

inductive Level where
  | debug
  | info
  | warning
  | error
  deriving DecidableEq, Repr

def Level.label : Level → String
  | .debug => "debug"
  | .info => "info"
  | .warning => "warning"
  | .error => "error"

/-- Something for the console to show. -/
inductive Shown where
  /-- A line whose brackets are read as styles. -/
  | styled (line : String)
  /-- Text as it is, without a line end. -/
  | plain (text : String)
  /-- A table; title and cells are read as styled text. -/
  | table (title : String) (headers : List String) (rows : List (List String))
  deriving DecidableEq, Repr

inductive Event where
  | called (call : Call)
  | logged (level : Level) (message : String) (fields : Record Value)
  | shown (what : Shown)
  deriving Repr

structure Journal where
  events : List Event := []
  /-- Milliseconds since the start. -/
  clock : Nat := 0
  deriving Repr

namespace Journal

def add (event : Event) (j : Journal) : Journal := { j with events := j.events ++ [event] }

def advance (milliseconds : Nat) (j : Journal) : Journal :=
  { j with clock := j.clock + milliseconds }

@[simp] theorem events_add (event : Event) (j : Journal) :
    (j.add event).events = j.events ++ [event] := rfl

@[simp] theorem clock_add (event : Event) (j : Journal) : (j.add event).clock = j.clock := rfl

@[simp] theorem events_advance (n : Nat) (j : Journal) : (j.advance n).events = j.events := rfl

@[simp] theorem clock_advance (n : Nat) (j : Journal) : (j.advance n).clock = j.clock + n := rfl

end Journal

end Mooring
