import Mooring.Fault

/-! Everything the program asks of its surroundings, with the type of each answer. Calls on a
daemon go to a client by name; the names also tell clients apart in a journal. -/

namespace Mooring

/-- A client of a daemon, by name. -/
abbrev Client := String

/-- A requested container, network, volume or image, by identifier. -/
abbrev ResourceId := String

/-- What a container wrote: bytes, or text that was decoded already. -/
inductive Output where
  | bytes (bs : List UInt8)
  | text (s : String)
  deriving DecidableEq, Repr

/-- The certificates of a secured connection. -/
structure Tls where
  certificate : String
  key : String
  authority : String
  deriving DecidableEq, Repr

structure CommandResult where
  output : String
  complaint : String
  code : Int
  deriving DecidableEq, Repr

/-- What keeps a started process apart from the terminal of this one. -/
inductive Detachment where
  | processGroup
  | session
  deriving DecidableEq, Repr

/-- A process that was started, and whether its input can be closed from here. -/
structure Process where
  pid : Int
  hasInput : Bool
  deriving DecidableEq, Repr

/-- Calls on a daemon through its client. -/
inductive ClientCall where
  | ping
  | close
  | info
  | version
  | setTimeout (seconds : Int)
  | imagesNamed (name : String)
  | imagesMatching (filters : List String)
  | containersMatching (filters : List String)
  | networksMatching (filters : List String)
  | volumesMatching (filters : List String)
  | pullImage (repository tag : String)
  | removeImage (id : ResourceId)
  | createContainer (request : Record Value)
  | runContainer (request : Record Value)
  | startContainer (id : ResourceId)
  | reloadContainer (id : ResourceId)
  | killContainer (id : ResourceId)
  /-- Removal of a container from a listing, with its volumes. -/
  | sweepContainer (id : ResourceId)
  | removeNetwork (id : ResourceId)
  | removeVolume (id : ResourceId)
  | containerPorts (id : ResourceId)
  | waitContainer (id : ResourceId)
  | containerLogs (id : ResourceId) (errors : Bool)
  /-- Forced removal of a container with its volumes, running or not. -/
  | removeContainer (id : ResourceId)
  deriving Repr

@[reducible] def ClientCall.Answer : ClientCall → Type
  | .info | .version | .waitContainer _ | .containerPorts _ => Value
  | .imagesNamed _ | .imagesMatching _ | .containersMatching _ | .networksMatching _
  | .volumesMatching _ => List ResourceId
  | .createContainer _ | .runContainer _ => ResourceId
  | .containerLogs _ _ => Output
  | _ => Unit

/-- Calls on a route that the caller supplies. -/
inductive RouteCall where
  | isApplicable
  | createClient
  | hostAddress
  deriving DecidableEq, Repr

@[reducible] def RouteCall.Answer : RouteCall → Type
  | .isApplicable => Bool
  | .createClient => Client
  | .hostAddress => Option String

/-- A connected socket, by number. -/
abbrev Socket := Nat

inductive SocketCall where
  | connect (host : String) (port : Int)
  | send (socket : Socket) (line : String)
  | receive (socket : Socket) (size : Nat)
  /-- Lets the socket wait without limit. -/
  | clearTimeout (socket : Socket)
  | close (socket : Socket)
  deriving DecidableEq, Repr

@[reducible] def SocketCall.Answer : SocketCall → Type
  | .connect _ _ => Socket
  | .receive _ _ => List UInt8
  | _ => Unit

inductive Call where
  | client (client : Client) (call : ClientCall)
  | route (name : String) (call : RouteCall)
  | socket (call : SocketCall)
  /-- A client for the daemon that an environment names, with a request timeout. -/
  | clientFor (environment : Record String) (timeout : Int)
  /-- A client for the daemon that this process's own environment names. -/
  | clientFromEnvironment
  | clientAt (url : String) (timeout : Int) (tls : Option Tls)
  | loadTls (tls : Tls)
  | findExecutable (name : String)
  | runCommand (words : List String) (timeout : Int)
  | startProcess (words : List String) (environment : Record String) (detachment : Detachment)
  | closeProcessInput
  | setUpLogging
  | sleep (milliseconds : Nat)
  | readInput (size : Nat)
  /-- The caller's own work in a helper container. -/
  | work (client : Option Client) (container : ResourceId)
  deriving Repr

@[reducible] def Call.Answer : Call → Type
  | .client _ call => call.Answer
  | .route _ call => call.Answer
  | .socket call => call.Answer
  | .clientFor _ _ | .clientFromEnvironment | .clientAt _ _ _ => Client
  | .findExecutable _ => Bool
  | .runCommand _ _ => CommandResult
  | .startProcess _ _ _ => Process
  | _ => Unit

end Mooring
