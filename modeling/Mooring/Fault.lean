import Mooring.Address.Url
import Mooring.Text.Numeral
import Mooring.Text.Place
import Mooring.Text.Utf8
import Mooring.Value

/-! What can go wrong. A `Problem` is the cause alone; a `Fault` is a problem on its way to the
caller, with the problem that led to it and the notes added underway. An interrupt is a problem
like any other, but nothing that handles failures handles it. -/

namespace Mooring

/-- The daemon's refusals, the later ones special cases of the earlier. -/
inductive Refusal where
  | general
  | notFound
  | imageNotFound
  deriving DecidableEq, Repr

/-- Failures of a daemon client that are no answer of the daemon. -/
inductive ClientTrouble where
  | general
  | badArgument
  | badTls
  deriving DecidableEq, Repr

/-- Failures of the operating system, by kind. -/
inductive OsTrouble where
  | general
  | connection
  | connectionRefused
  | connectionReset
  | connectionAborted
  | brokenPipe
  | timeout
  | fileNotFound
  | fileExists
  | permission
  | wouldBlock
  | childProcess
  | noSuchProcess
  | interrupted
  | isDirectory
  | notDirectory
  deriving DecidableEq, Repr

/-- The kind of failure that a system error number stands for. -/
def OsTrouble.ofNumber (errno : Int) : OsTrouble :=
  if errno = 1 ∨ errno = 13 then .permission
  else if errno = 2 then .fileNotFound
  else if errno = 3 then .noSuchProcess
  else if errno = 4 then .interrupted
  else if errno = 10 then .childProcess
  else if errno = 11 ∨ errno = 114 ∨ errno = 115 then .wouldBlock
  else if errno = 17 then .fileExists
  else if errno = 20 then .notDirectory
  else if errno = 21 then .isDirectory
  else if errno = 32 ∨ errno = 108 then .brokenPipe
  else if errno = 103 then .connectionAborted
  else if errno = 104 then .connectionReset
  else if errno = 110 then .timeout
  else if errno = 111 then .connectionRefused
  else .general

/-- A value that is not of the shape an operation needs. -/
inductive Misfit where
  | noMember (type member : String)
  | noContents (type : String)
  | noItems (type : String)
  | noNumber (type : String)
  | noOrder (left right : String)
  | missingKey (key : Value)
  /-- A name where a position belongs. -/
  | noNamedItems (type : String)
  | noDisplay (type : String)
  | readOnly (type : String)
  | noLength (type : String)
  | noSequence (type : String)
  /-- A stretch of positions where a key belongs. -/
  | noStretch
  /-- No text with places, but values to put into it. -/
  | noTemplate (type values : String)
  | noLevel (literal : String)
  /-- A value for a name that has one already. -/
  | repeatedArgument (callee name : String)
  /-- The same, where the name was to be handed on. -/
  | repeatedKeyword (callee name : String)
  | unknownArgument (callee name : String)
  | missingArguments (callee : String) (names : List String)
  deriving Repr

/-- Why docker-machine could not be used. -/
inductive MachineTrouble where
  | commandFailed (command : List String) (complaint : String)
  | noMachines
  deriving DecidableEq, Repr

/-- The categories under which the program reports its own failures. -/
inductive Category where
  | noViableConnection
  | unsupportedVersion
  | notResolved
  | imagePull
  | containerCleanup
  | diskSpace
  | resourceManager
  | internal
  deriving DecidableEq, Repr

/-- The kinds of failure that are the program's own. -/
inductive FailureKind where
  | general
  | noViableConnection
  | unsupportedVersion
  | notYetResolved
  | imagePull
  | containerCleanup
  | notEnoughDiskSpace
  | resourceManager
  deriving DecidableEq, Repr

/-- The program's own failures. -/
inductive Failure where
  /-- Any failure, under a category that is not checked before it is reported. -/
  | general (message : String) (category : Value) (details : Value)
  | noViableConnection (attempts : List String)
  | unsupportedVersion (version minimum : String)
  | notYetResolved (what : String)
  | imagePull (image : String) (reason : Option String)
  | containerCleanup (container : String) (reason : Option String)
  | notEnoughDiskSpace (available required : Value)
  | resourceManager (message : String)
  deriving Repr

inductive Problem where
  /-- The daemon refused a request; without a status there was no proper answer. -/
  | refused (kind : Refusal) (message : String) (status : Option Int) (reason url : String)
      (explanation : String)
  | client (kind : ClientTrouble) (message : String)
  | os (kind : OsTrouble) (errno : Option Int) (message : String) (path : Option String)
  | value (message : String)
  | runtime (message : String)
  | key (key : String)
  | interrupt (message : String)
  /-- A command ran longer than it was given. -/
  | expired (command : List String) (limit : Value)
  | numeral (fault : Text.NumeralFault)
  | url (fault : Address.UrlFault)
  | encoding (fault : Text.Utf8Fault)
  | unknownLevel (name : String)
  | badLabel (text : String)
  | place (fault : Text.PlaceFault)
  /-- Markup that the console cannot read. -/
  | markup (message : String)
  | misfit (misfit : Misfit)
  | machine (trouble : MachineTrouble)
  | failure (failure : Failure)
  deriving Repr

/-- A problem on its way to the caller. -/
structure Fault where
  problem : Problem
  cause : Option Problem := none
  notes : List String := []
  deriving Repr

namespace Problem

/-- Whether a handler of failures handles the problem. -/
def isException : Problem → Bool
  | .interrupt _ => false
  | _ => true

def isRefusal : Problem → Bool
  | .refused .. => true
  | _ => false

/-- Whether the daemon has nothing under the name it was asked for. -/
def isNotFound : Problem → Bool
  | .refused .notFound .. => true
  | .refused .imageNotFound .. => true
  | _ => false

/-- Whether the problem comes from the daemon or its client. -/
def isDaemonTrouble : Problem → Bool
  | .refused .. => true
  | .client .. => true
  | _ => false

/-- Whether the problem comes from the operating system; the daemon's refusals arrive over a
connection and count among them. -/
def isOsTrouble : Problem → Bool
  | .refused .. => true
  | .os .. => true
  | _ => false

/-- Whether the problem is one of the program's own failures. -/
def isFailure : Problem → Bool
  | .failure _ => true
  | _ => false

def status? : Problem → Option Int
  | .refused _ _ status _ _ _ => status
  | _ => none

end Problem

namespace Fault

def of (problem : Problem) : Fault := { problem }

/-- A failure of the program itself. -/
def ofFailure (failure : Failure) : Fault := { problem := .failure failure }

/-- The fault that another one led to. -/
def because (failure : Failure) (fault : Fault) : Fault :=
  { problem := .failure failure, cause := some fault.problem }

def note (text : String) (fault : Fault) : Fault := { fault with notes := fault.notes ++ [text] }

end Fault

end Mooring
