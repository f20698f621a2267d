import Mooring.Fault
import Mooring.Value.Print

/-! The wording of problems: the name of a problem's kind, its message, and for the program's own
failures the category and the details of the report. -/

namespace Mooring

open Value (quote)

/-- Resources are named by the first twelve characters of their identifier. -/
def shortId (id : String) : String := String.ofList (id.toList.take 12)

namespace Category

def label : Category → String
  | .noViableConnection => "no_viable_connection"
  | .unsupportedVersion => "unsupported_version"
  | .notResolved => "not_resolved"
  | .imagePull => "image_pull"
  | .containerCleanup => "container_cleanup"
  | .diskSpace => "disk_space"
  | .resourceManager => "resource_manager"
  | .internal => "internal"

def all : List Category :=
  [.noViableConnection, .unsupportedVersion, .notResolved, .imagePull, .containerCleanup,
   .diskSpace, .resourceManager, .internal]

/-- The category a value names. -/
def ofValue? : Value → Option Category
  | .text s => all.find? (fun c => c.label == s)
  | _ => none

end Category

namespace FailureKind

def name : FailureKind → String
  | .general => "DockerLinkException"
  | .noViableConnection => "NoViableConnectionError"
  | .unsupportedVersion => "UnsupportedDaemonVersionError"
  | .notYetResolved => "NotYetResolvedError"
  | .imagePull => "ImagePullError"
  | .containerCleanup => "ContainerCleanupError"
  | .notEnoughDiskSpace => "NotEnoughDiskSpaceError"
  | .resourceManager => "ResourceManagerError"

def all : List FailureKind :=
  [.general, .noViableConnection, .unsupportedVersion, .notYetResolved, .imagePull,
   .containerCleanup, .notEnoughDiskSpace, .resourceManager]

def ofName? (name : String) : Option FailureKind := all.find? (fun kind => kind.name == name)

/-- The category that failures of a kind are reported under. -/
def category : FailureKind → Category
  | .general => .internal
  | .noViableConnection => .noViableConnection
  | .unsupportedVersion => .unsupportedVersion
  | .notYetResolved => .notResolved
  | .imagePull => .imagePull
  | .containerCleanup => .containerCleanup
  | .notEnoughDiskSpace => .diskSpace
  | .resourceManager => .resourceManager

end FailureKind

namespace Failure

def kind : Failure → FailureKind
  | .general .. => .general
  | .noViableConnection _ => .noViableConnection
  | .unsupportedVersion .. => .unsupportedVersion
  | .notYetResolved _ => .notYetResolved
  | .imagePull .. => .imagePull
  | .containerCleanup .. => .containerCleanup
  | .notEnoughDiskSpace .. => .notEnoughDiskSpace
  | .resourceManager _ => .resourceManager

/-- A sentence with a reason behind it, where there is one to tell. -/
def withReason (sentence : String) : Option String → String
  | none => sentence
  | some "" => sentence
  | some reason => sentence ++ ": " ++ reason

def message : Failure → String
  | .general message _ _ => message
  | .noViableConnection [] =>
    "Could not find a valid Docker environment: " ++
      "no connection strategy is applicable on this host"
  | .noViableConnection attempts =>
    "Could not find a valid Docker environment. Attempted strategies:\n" ++
      "\n".intercalate (attempts.map ("    " ++ ·))
  | .unsupportedVersion version minimum =>
    "Docker version " ++ version ++ " is not supported, should be at least " ++ minimum
  | .notYetResolved what =>
    what ++ " is not available before the Docker client has been resolved"
  | .imagePull image reason => withReason ("Failed to pull image " ++ image) reason
  | .containerCleanup container reason =>
    withReason ("Failed to remove container " ++ shortId container) reason
  | .notEnoughDiskSpace available required =>
    "Docker environment has " ++ available.display ++ " MB of free disk space, at least " ++
      required.display ++ " MB is required"
  | .resourceManager message => message

def category : Failure → Value
  | .general _ category _ => category
  | failure => .text failure.kind.category.label

/-- The details of a failure; an empty table where there are none. -/
def details : Failure → Value
  | .general _ _ details => details.orElse (.object [])
  | .noViableConnection attempts => .object [("failures", .ofTexts attempts)]
  | .unsupportedVersion version minimum =>
    .object [("version", .text version), ("minimum", .text minimum)]
  | .imagePull image _ => .object [("image", .text image)]
  | .containerCleanup container _ => .object [("container_id", .text container)]
  | .notEnoughDiskSpace available required =>
    .object [("available_mb", available), ("required_mb", required)]
  | .notYetResolved _ => .object []
  | .resourceManager _ => .object []

end Failure

namespace Problem

def osName : OsTrouble → String
  | .general => "OSError"
  | .connection => "ConnectionError"
  | .connectionRefused => "ConnectionRefusedError"
  | .connectionReset => "ConnectionResetError"
  | .connectionAborted => "ConnectionAbortedError"
  | .brokenPipe => "BrokenPipeError"
  | .timeout => "TimeoutError"
  | .fileNotFound => "FileNotFoundError"
  | .fileExists => "FileExistsError"
  | .permission => "PermissionError"
  | .wouldBlock => "BlockingIOError"
  | .childProcess => "ChildProcessError"
  | .noSuchProcess => "ProcessLookupError"
  | .interrupted => "InterruptedError"
  | .isDirectory => "IsADirectoryError"
  | .notDirectory => "NotADirectoryError"

def osKinds : List OsTrouble :=
  [.general, .connection, .connectionRefused, .connectionReset, .connectionAborted, .brokenPipe,
   .timeout, .fileNotFound, .fileExists, .permission, .wouldBlock, .childProcess, .noSuchProcess,
   .interrupted, .isDirectory, .notDirectory]

/-- The kind of trouble under a name. -/
def osKindOf? (name : String) : Option OsTrouble := osKinds.find? (osName · == name)

def placeName : Text.PlaceFault → String
  | .keyUnclosed => "ValueError"
  | .widthTooLarge => "ValueError"
  | .precisionTooLarge => "ValueError"
  | .unfinished => "ValueError"
  | .unknownLetter .. => "ValueError"
  | .widthBeyondWord => "OverflowError"
  | .precisionBeyondWord => "OverflowError"
  | .tooManyDigits => "OverflowError"
  | .charBeyondLast => "OverflowError"
  | .realTooLarge => "OverflowError"
  | .noRoom => "MemoryError"
  | _ => "TypeError"

/-- The name of a problem's kind. -/
def kindName : Problem → String
  | .refused .general .. => "APIError"
  | .refused .notFound .. => "NotFound"
  | .refused .imageNotFound .. => "ImageNotFound"
  | .client .general _ => "DockerException"
  | .client .badArgument _ => "InvalidArgument"
  | .client .badTls _ => "TLSParameterError"
  | .os kind .. => osName kind
  | .value _ => "ValueError"
  | .runtime _ => "RuntimeError"
  | .key _ => "KeyError"
  | .interrupt _ => "KeyboardInterrupt"
  | .expired .. => "TimeoutExpired"
  | .numeral _ => "ValueError"
  | .url _ => "ValueError"
  | .encoding _ => "UnicodeDecodeError"
  | .unknownLevel _ => "ValueError"
  | .badLabel _ => "ArgumentTypeError"
  | .misfit (.noMember ..) => "AttributeError"
  | .misfit (.missingKey _) => "KeyError"
  | .misfit (.noDisplay _) => "NotRenderableError"
  | .misfit _ => "TypeError"
  | .place fault => placeName fault
  | .markup _ => "MarkupError"
  | .machine _ => "DockerMachineError"
  | .failure own => own.kind.name

def numeralMessage : Text.NumeralFault → String
  | .malformed radix text =>
    "invalid literal for int() with base " ++ Number.natText radix.toNat ++ ": " ++
      String.ofList ((Text.quoted text.toList).take 200)
  | .tooLong digits =>
    "Exceeds the limit (" ++ Number.natText Text.decimalLimit ++
      " digits) for integer string conversion: value has " ++ Number.natText digits ++
      " digits; use sys.set_int_max_str_digits() to increase the limit"

def urlMessage : Address.UrlFault → String
  | .unbalancedBrackets => "Invalid IPv6 URL"
  | .badFutureAddress => "IPvFuture address is invalid"
  | .notAnAddress text => quote text ++ " does not appear to be an IPv4 or IPv6 address"
  | .bracketedV4 => "An IPv4 address cannot be in brackets"
  | .disguisedDelimiter authority =>
    "netloc '" ++ authority ++ "' contains invalid characters under NFKC normalization"

def encodingMessage (fault : Text.Utf8Fault) : String :=
  let place := match fault.bytes with
    | [b] =>
      "byte 0x" ++ String.ofList (Text.hexDigits 2 b.toNat) ++ " in position " ++
        Number.natText fault.offset
    | bytes =>
      "bytes in position " ++ Number.natText fault.offset ++ "-" ++
        Number.natText (fault.offset + bytes.length - 1)
  let reason := match fault.reason with
    | .invalidStart => "invalid start byte"
    | .invalidContinuation => "invalid continuation byte"
    | .unexpectedEnd => "unexpected end of data"
  "'utf-8' codec can't decode " ++ place ++ ": " ++ reason

def misfitMessage : Misfit → String
  | .noMember type member => "'" ++ type ++ "' object has no attribute '" ++ member ++ "'"
  | .noContents type => "argument of type '" ++ type ++ "' is not iterable"
  | .noItems type => "'" ++ type ++ "' object is not subscriptable"
  | .noNumber type =>
    "int() argument must be a string, a bytes-like object or a real number, not '" ++ type ++ "'"
  | .noOrder left right =>
    "'<' not supported between instances of '" ++ left ++ "' and '" ++ right ++ "'"
  | .missingKey name => name.literal
  | .noNamedItems "str" => "string indices must be integers, not 'str'"
  | .noNamedItems type => type ++ " indices must be integers or slices, not str"
  | .noDisplay type =>
    "unable to render " ++ type ++ "; a string or other renderable object is required"
  | .readOnly type => "'" ++ type ++ "' object does not support item assignment"
  | .noLength type => "object of type '" ++ type ++ "' has no len()"
  | .noSequence type => "'" ++ type ++ "' object is not iterable"
  | .noStretch => "unhashable type: 'slice'"
  | .noTemplate type values =>
    "unsupported operand type(s) for %=: '" ++ type ++ "' and '" ++ values ++ "'"
  | .noLevel shown => "Level not an integer or a valid string: " ++ shown
  | .repeatedArgument callee name =>
    callee ++ " got multiple values for argument '" ++ name ++ "'"
  | .repeatedKeyword callee name =>
    callee ++ " got multiple values for keyword argument '" ++ name ++ "'"
  | .unknownArgument callee name =>
    callee ++ " got an unexpected keyword argument '" ++ name ++ "'"
  | .missingArguments callee [name] =>
    callee ++ " missing 1 required positional argument: '" ++ name ++ "'"
  | .missingArguments callee names =>
    callee ++ " missing " ++ Number.natText names.length ++ " required positional arguments: " ++
      " and ".intercalate (names.map (fun name => "'" ++ name ++ "'"))

/-- The letter of a place, where it is printable ASCII or nearly so. -/
def shownLetter (letter : Char) : String :=
  if 31 ≤ letter.toNat ∧ letter.toNat ≤ 126 then letter.toString else "?"

def placeMessage : Text.PlaceFault → String
  | .noTable => "format requires a mapping"
  | .keyUnclosed => "incomplete format key"
  | .widthTooLarge => "width too big"
  | .precisionTooLarge => "precision too big"
  | .unfinished => "incomplete format"
  | .unknownLetter letter offset =>
    "unsupported format character '" ++ shownLetter letter ++ "' (0x" ++
      String.ofList (Nat.toDigits 16 letter.toNat) ++ ") at index " ++ Number.natText offset
  | .sizeNotWhole => "* wants int"
  | .widthBeyondWord => "Python int too large to convert to C ssize_t"
  | .precisionBeyondWord => "Python int too large to convert to C int"
  | .tooManyDigits => "precision too large"
  | .noRoom => ""
  | .noChar => "%c requires int or char"
  | .charBeyondLast => "%c arg not in range(0x110000)"
  | .noNumber letter type =>
    "%" ++ letter.toString ++ " format: a real number is required, not " ++ type
  | .noWholeNumber letter type =>
    "%" ++ letter.toString ++ " format: an integer is required, not " ++ type
  | .noReal type => "must be real number, not " ++ type
  | .realTooLarge => "int too large to convert to float"
  | .valueMissing => "not enough arguments for format string"
  | .valuesLeft => "not all arguments converted during string formatting"

def machineMessage : MachineTrouble → String
  | .commandFailed command complaint => " ".intercalate command ++ " failed: " ++ complaint
  | .noMachines => "docker-machine has no machines"

/-- The sentence for a status, in the daemon's name or in the client's. -/
def refusedMessage (message : String) (status : Option Int)
    (reason address explanation : String) : String :=
  let sentence := match status with
    | some code =>
      let subject := if 400 ≤ code ∧ code < 500 then "Client" else "Server"
      if 400 ≤ code ∧ code < 600 then
        Number.intText code ++ " " ++ subject ++ " Error for " ++ address ++ ": " ++ reason
      else message
    | none => message
  if explanation = "" then sentence else sentence ++ " (\"" ++ explanation ++ "\")"

def tlsAdvice : String :=
  ". TLS configurations should map the Docker CLI client configurations. " ++
    "See https://docs.docker.com/engine/articles/https/ for API details."

def osMessage (errno : Option Int) (message : String) (path : Option String) : String :=
  match errno with
  | none => message
  | some errno =>
    "[Errno " ++ Number.intText errno ++ "] " ++ message ++
      (match path with
        | none => ""
        | some path => ": " ++ quote path)

def message : Problem → String
  | .refused _ message status reason address explanation =>
    refusedMessage message status reason address explanation
  | .client .badTls message => message ++ tlsAdvice
  | .client _ message => message
  | .os _ errno message path => osMessage errno message path
  | .value message => message
  | .runtime message => message
  | .key name => quote name
  | .interrupt message => message
  | .expired command limit =>
    "Command '" ++ (Value.ofTexts command).literal ++ "' timed out after " ++ limit.display ++
      " seconds"
  | .numeral fault => numeralMessage fault
  | .url fault => urlMessage fault
  | .encoding fault => encodingMessage fault
  | .unknownLevel name => "Unknown level: " ++ quote name
  | .badLabel text => "Invalid label " ++ quote text ++ ", expected key=value"
  | .misfit shape => misfitMessage shape
  | .place fault => placeMessage fault
  | .markup message => message
  | .machine trouble => machineMessage trouble
  | .failure own => own.message

end Problem

namespace Fault

def message (fault : Fault) : String := fault.problem.message

/-- What there is to tell of a failure of the program's own beyond its message. -/
def ownEntries : Problem → Record Value
  | .failure own => [("error_type", own.category), ("details", own.details)]
  | _ => []

def causeEntries : Option Problem → Record Value
  | some cause => [("cause", .text cause.kindName)]
  | none => []

def noteEntries (notes : List String) : Record Value :=
  if notes.isEmpty then [] else [("notes", .ofTexts notes)]

/-- Everything there is to tell of a fault, by name. -/
def entries (fault : Fault) : Record Value :=
  [("error", .text fault.problem.kindName), ("message", .text fault.message)] ++
    ownEntries fault.problem ++ causeEntries fault.cause ++ noteEntries fault.notes

end Fault

end Mooring
