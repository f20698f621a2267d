import Mooring.Complaint
import Mooring.Fault.Message

/-! Failures put together from named values of any type. Every kind of failure has parameters of
its own; what is given under other names goes to the parameters that all kinds share, unless the
kind has settled those itself. Types are not looked at before the failure is reported. -/

namespace Mooring

/-- A failure with values as they were given. -/
structure Draft where
  message : Value
  category : Value
  /-- An empty table where there are none. -/
  details : Value
  /-- What the failure keeps besides. -/
  members : Record Value := []
  deriving Repr

structure Parameter where
  name : String
  /-- What stands for it where it is not given; `none` if it has to be. -/
  fallback : Option Value := none

namespace FailureKind

def parameters : FailureKind → List Parameter
  | .general =>
    [⟨"message", none⟩, ⟨"error_type", some (.text Category.internal.label)⟩,
     ⟨"details", some .null⟩]
  | .noViableConnection => [⟨"failures", some .null⟩]
  | .unsupportedVersion => [⟨"version", none⟩, ⟨"minimum", none⟩]
  | .notYetResolved => [⟨"what", some (.text "Docker connection")⟩]
  | .imagePull => [⟨"image", none⟩, ⟨"reason", some .null⟩]
  | .containerCleanup => [⟨"container_id", none⟩, ⟨"reason", some .null⟩]
  | .notEnoughDiskSpace => [⟨"available_mb", none⟩, ⟨"required_mb", none⟩]
  | .resourceManager => [⟨"message", some (.text "Resource manager failed to initialize")⟩]

/-- The shared parameters that a kind settles itself. -/
def settled : FailureKind → List String
  | .general => []
  | .notYetResolved => ["message", "error_type"]
  | .resourceManager => ["message", "error_type"]
  | _ => ["message", "error_type", "details"]

/-- What the failures of a kind are made by. -/
def maker (kind : FailureKind) : String := kind.name ++ ".__init__()"

end FailureKind

namespace Draft

/-- The items of a sequence; nothing where there is no value. -/
def itemsOf (v : Value) : Except Misfit (List Value) :=
  match v.orElse (.list []) with
  | .list items => .ok items
  | .text s => .ok (s.toList.map (fun c => .text c.toString))
  | .object entries => .ok (entries.map (fun entry => .text entry.1))
  | v => .error (.noSequence v.typeName)

/-- The beginning of an identifier, or of a list in its place. -/
def shortened : Value → Except Misfit String
  | .text s => .ok (shortId s)
  | .list items => .ok (Value.list (items.take 12)).display
  | .object _ => .error .noStretch
  | v => .error (.noItems v.typeName)

/-- A reason that counts as something. -/
def reasonOf (v : Value) : Option String := if v.isSomething then some v.display else none

/-- The draft of a typed failure, with values that keep their types in the details. -/
def ofFailure (failure : Failure) (members : Record Value) : Draft :=
  { message := .text failure.message, category := failure.category, details := .object members,
    members }

/-- The draft of a kind from the values of its parameters. -/
def compose (kind : FailureKind) (value : String → Value) : Except Misfit Draft :=
  match kind with
  | .general =>
    .ok { message := value "message", category := value "error_type",
          details := (value "details").orElse (.object []) }
  | .noViableConnection => do
    let attempts ← itemsOf (value "failures")
    return ofFailure (.noViableConnection (attempts.map Value.display))
      [("failures", .list attempts)]
  | .unsupportedVersion =>
    .ok (ofFailure (.unsupportedVersion (value "version").display (value "minimum").display)
      [("version", value "version"), ("minimum", value "minimum")])
  | .notYetResolved => .ok (ofFailure (.notYetResolved (value "what").display) [])
  | .imagePull =>
    .ok (ofFailure (.imagePull (value "image").display (reasonOf (value "reason")))
      [("image", value "image")])
  | .containerCleanup => do
    let sentence := "Failed to remove container " ++ (← shortened (value "container_id"))
    let members := [("container_id", value "container_id")]
    return { message := .text (Failure.withReason sentence (reasonOf (value "reason")))
             category := .text kind.category.label, details := .object members, members }
  | .notEnoughDiskSpace =>
    .ok (ofFailure (.notEnoughDiskSpace (value "available_mb") (value "required_mb"))
      [("available_mb", value "available_mb"), ("required_mb", value "required_mb")])
  | .resourceManager =>
    .ok { message := value "message", category := .text kind.category.label,
          details := .object [] }

/-- The name under which whatever is made would get itself. -/
def ownName : String := "self"

/-- Refuses arguments that no parameter takes. -/
def checkNames (kind : FailureKind) (arguments : Record Value) : Except Misfit Unit :=
  let names := kind.parameters.map Parameter.name
  let isRefused (name : String) : Bool :=
    name = ownName || (kind = .general && !names.contains name)
  match arguments.keys.find? isRefused with
  | none => .ok ()
  | some name =>
    if name = ownName then .error (.repeatedArgument kind.maker name)
    else .error (.unknownArgument kind.maker name)

/-- Refuses to go without a parameter that has nothing to stand for it. -/
def checkPresence (kind : FailureKind) (arguments : Record Value) : Except Misfit Unit :=
  let missing := kind.parameters.filter
    (fun parameter => parameter.fallback.isNone && !arguments.contains parameter.name)
  if missing.isEmpty then .ok () else .error (.missingArguments kind.maker (missing.map (·.name)))

/-- Refuses arguments for shared parameters that the kind has settled, or that are none. -/
def checkHandedOn (kind : FailureKind) (extra : Record Value) : Except Misfit Unit :=
  match extra.keys.find? kind.settled.contains with
  | some name =>
    .error (.repeatedKeyword ("dockerlink.models.errors." ++ FailureKind.general.maker) name)
  | none =>
    match extra.keys.find? (· ≠ "details") with
    | some name => .error (.unknownArgument FailureKind.general.maker name)
    | none => .ok ()

/-- The value of a parameter. -/
def valueOf (kind : FailureKind) (arguments : Record Value) (name : String) : Value :=
  match arguments.get? name with
  | some v => v
  | none => ((kind.parameters.find? (·.name = name)).bind Parameter.fallback).getD .null

/-- A failure of a kind from named arguments. -/
def make (kind : FailureKind) (arguments : Record Value) : Except Misfit Draft := do
  checkNames kind arguments
  checkPresence kind arguments
  let draft ← compose kind (valueOf kind arguments)
  let names := kind.parameters.map Parameter.name
  let extra : Record Value := arguments.filter (fun argument => !names.contains argument.1)
  checkHandedOn kind extra
  match extra.get? "details" with
  | some details => return { draft with details := details.orElse (.object []) }
  | none => return draft

/-- A failure as diagnostics report it. -/
structure Report where
  error : String
  category : Category
  /-- Null where there are none. -/
  details : Value

def isText : Value → Bool
  | .text _ => true
  | _ => false

def isTable : Value → Bool
  | .object _ => true
  | _ => false

/-- What keeps a failure from being reported: the message has to be a text, the category a known
one, and the details a table. -/
def issues (draft : Draft) : List Issue :=
  (if isText draft.message then [] else [⟨"error", .notAText⟩]) ++
    (if (Category.ofValue? draft.category).isSome then []
     else [⟨"error_type", .notOneOf (Category.all.map Category.label)⟩]) ++
    (if draft.details.isSomething && !isTable draft.details then [⟨"details", .notATable⟩] else [])

def report (draft : Draft) : Except (List Issue) Report :=
  match draft.issues, Category.ofValue? draft.category with
  | [], some category =>
    .ok ⟨draft.message.display, category,
      if draft.details.isSomething then draft.details else .null⟩
  | issues, _ => .error issues

end Draft

end Mooring
