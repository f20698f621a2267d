import Mooring.Fault.Message
import Mooring.Log.Severity
import Mooring.Log.Template
import Mooring.Value.Json

/-! Log lines. What is logged is completed with its logger, severity and time, and with the program,
its version and the session; the line then shows all of that as JSON, or for reading on a
console. Some fields are no contents: they hold the values for the text, or steer what is shown. -/

namespace Mooring

/-- Something to be logged. -/
structure LogEntry where
  logger : String
  severity : Severity
  /-- Whether it is logged as a fault that is being handled. -/
  handling : Bool := false
  /-- Whether it comes from a library, which has only a sentence to log and no fields. -/
  plain : Bool := false
  event : Value
  /-- The values for the places in the text of the event. -/
  values : List Value := []
  fields : Record Value := []
  deriving Repr

namespace LogEntry

def program : String := "dockerlink"

def version : String := "0.4.0"

/-- The name of a logger; the one above all others may be left without. -/
def loggerName (entry : LogEntry) : String := if entry.logger = "" then "root" else entry.logger

/-! ### Fields that are no contents -/

/-- The name of the operation that logs the entry. -/
def method (entry : LogEntry) : String :=
  if entry.handling then "exception" else entry.severity.label

/-- A field may not have the name of something that the operation gets anyhow. -/
def checkFields (entry : LogEntry) : Except Misfit Unit :=
  let names := entry.fields.keys
  match names.find? (fun name => name = "self" || name = "event") with
  | some name => .error (.repeatedArgument ("BoundLogger." ++ entry.method ++ "()") name)
  | none =>
    if names.contains "method_name" then
      .error (.repeatedArgument "BoundLogger._proxy_to_logger()" "method_name")
    else .ok ()

/-- The field that can hold the values for the text instead. -/
def valuesField : String := "positional_args"

/-- Values for a text, taken from a field. A table that is alone in a list is used itself. -/
def suppliedBy (v : Value) : Except Misfit Template.Supply :=
  match v with
  | .list [.object (entry :: entries)] => .ok (.ofValue (.object (entry :: entries)))
  | .object [_] => .error (.missingKey (.int 0))
  | .object _ => .ok (.ofValue v)
  | .list _ => .ok (.ofValue v)
  | .text _ => .ok (.ofValue v)
  | v => .error (.noLength v.typeName)

/-- The type of what is put into a text. -/
def supplyType (entry : LogEntry) (supply : Template.Supply) : String :=
  match supply.table, supply.values with
  | some v, _ => v.typeName
  | none, v :: _ => if entry.values.isEmpty then v.typeName else "tuple"
  | none, [] => "tuple"

/-- The values for the text of an entry, if it has any. -/
def supply? (entry : LogEntry) : Except Misfit (Option Template.Supply) :=
  if entry.values.isEmpty then
    let v := Value.entry entry.fields valuesField
    if v.isSomething then (suppliedBy v).map some else .ok none
  else .ok (some (.ofValues entry.values))

/-- The text of an entry with values put into it. -/
def filled (entry : LogEntry) (supply : Template.Supply) : Except Problem Value :=
  match entry.event with
  | .text s => (Template.fill s supply).map Value.text
  | .null => .error (.misfit (.missingKey (.text "event")))
  | v => .error (.misfit (.noTemplate v.typeName (entry.supplyType supply)))

/-- Fields that steer what is shown. -/
def steeringNames : List String := ["stack_info", "exc_info", "_record", "_from_structlog"]

/-- Whether a field belongs to the contents. -/
def isContent (entry : LogEntry) (name : String) : Bool :=
  if name = valuesField then
    match entry.fields.get? name with
    | some .null => entry.values.isEmpty
    | _ => false
  else !steeringNames.contains name

/-! ### Contents -/

/-- What every line tells besides. -/
def context (session time : String) (entry : LogEntry) : Record Value :=
  [("logger", .text entry.loggerName), ("level", .text entry.severity.label),
   ("timestamp", .text time), ("service", .text program), ("version", .text version),
   ("session_id", .text session)]

/-- Everything that the line of an entry with fields tells, in order. A field under one of the fixed
names gives way to it. -/
def contents (session time : String) (entry : LogEntry) : Except Problem (Record Value) := do
  match Value.entry entry.fields "_record" with
  | .null => pure ()
  | v => throw (.misfit (.noMember v.typeName "name"))
  let event ← match ← entry.supply?.mapError .misfit with
    | some supply => entry.filled supply
    | none => pure entry.event
  let event : Record Value := match event with
    | .null => []
    | v => [("event", v)]
  let fields : Record Value := entry.fields.filter (fun field => entry.isContent field.1)
  return fields.putAll (event ++ entry.context session time)

/-- Everything that the line of a library's entry tells. -/
def plainContents (session time : String) (entry : LogEntry) : Except Problem (Record Value) := do
  let event ← if entry.values.isEmpty then pure entry.event.display
    else Template.fill entry.event.display (.ofValues entry.values)
  let handled : Record Value :=
    if entry.handling then [("exc_info", .list [.null, .null, .null])] else []
  return ("event", .text event) :: handled ++ entry.context session time

/-! ### Lines -/

/-- Pads a text with blanks on the right. -/
def pad (width : Nat) (s : String) : String :=
  s ++ String.ofList (List.replicate (width - s.length) ' ')

/-- Characters that would blur where a value ends. -/
def blursEnd (c : Char) : Bool := [' ', '\t', '=', '\r', '\n', '"', '\''].contains c

/-- A value on a console line; a text only needs quotes where its end would be unclear. -/
def consoleValue : Value → String
  | .text s => if s.toList.any blursEnd then Value.quote s else s
  | v => v.literal

/-- The columns that come first on a console line. -/
def columns : List (String × (String → String)) :=
  [("timestamp", id), ("level", fun s => "[" ++ pad 9 s ++ "]"), ("event", pad 30),
   ("logger", fun s => "[" ++ s ++ "]"), ("logger_name", fun s => "[" ++ s ++ "]")]

/-- The contents that follow a console line on lines of their own. -/
def appendedNames : List String := ["stack", "exception", "exc_info"]

/-- A text on lines of its own behind a console line, if it is there; `none` if it is no text. -/
def appended? : Value → Option (Option String)
  | .null => some none
  | .text s => some (some s)
  | _ => none

/-- The rule between two appended texts. -/
def separator : String := "\n\n" ++ String.ofList (List.replicate 79 '=') ++ "\n"

/-- A line for reading; there is none if what should follow it is no text. -/
def consoleLine? (contents : Record Value) : Option String := do
  let stack ← appended? (Value.entry contents "stack")
  let exception ← appended? (Value.entry contents "exception")
  let first := columns.filterMap (fun (name, shown) =>
    (contents.get? name).map (fun v => shown v.display))
  let isOther (name : String) : Bool :=
    !(columns.map (·.1)).contains name && !appendedNames.contains name
  let others := (contents.filter (fun field => isOther field.1)).mergeSort (fun p q => p.1 ≤ q.1)
  let line := " ".intercalate (first ++ others.map (fun (name, v) => name ++ "=" ++ consoleValue v))
  let below (s : Option String) : String := (s.map ("\n" ++ ·)).getD ""
  let rule := if stack.isSome && exception.isSome then separator else ""
  return line ++ below stack ++ rule ++ below exception

def jsonLine (contents : Record Value) : String := (Value.object contents).json

/-- The line of some contents, if there is one. -/
def line? (json : Bool) (contents : Record Value) : Option String :=
  if json then some (jsonLine contents) else consoleLine? contents

/-- The line of an entry. A library's entry that cannot be completed is left out. -/
def line (json : Bool) (session time : String) (entry : LogEntry) :
    Except Problem (Option String) :=
  if entry.plain then
    match entry.plainContents session time with
    | .ok contents => .ok (line? json contents)
    | .error _ => .ok none
  else do
    let contents ← entry.contents session time
    return line? json contents

end LogEntry

end Mooring
