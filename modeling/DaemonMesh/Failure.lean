import DaemonMesh.Session
import DaemonMesh.Text.Shown

namespace DaemonMesh

/-- Why a message or a session binding found no link. -/
inductive RoutingError
  | noRoute (destination : String) (session : SessionId) (attempts : Nat)
  | noEndpoint (destination : String) (session : SessionId)
  | unknownDestination (destination : String)
deriving DecidableEq, Repr

namespace RoutingError

def kind : RoutingError → String
  | noRoute .. => "NoRoute"
  | noEndpoint .. => "NoEndpoint"
  | unknownDestination .. => "UnknownDestination"

def message : RoutingError → String
  | noRoute destination session attempts =>
    "No route to " ++ destination ++ " (session " ++ session.text ++ ") after "
      ++ toString attempts ++ " attempt(s)"
  | noEndpoint destination session =>
    "No usable link on " ++ destination ++ " for session " ++ session.text
  | unknownDestination destination => "Unknown destination: " ++ destination

def shown (error : RoutingError) : String :=
  shownRecord error.kind <|
    match error with
    | noRoute destination session attempts =>
      [("destination", shownText destination), ("session_id", session.shown),
        ("attempts", toString attempts)]
    | noEndpoint destination session =>
      [("destination", shownText destination), ("session_id", session.shown)]
    | unknownDestination destination => [("destination", shownText destination)]

end RoutingError

/-- Why a link did not take a message. -/
inductive LinkError
  | closed (name : String)
  | backpressure (name : String)
  | rejected (name reason : String)
deriving DecidableEq, Repr

namespace LinkError

def kind : LinkError → String
  | closed .. => "Closed"
  | backpressure .. => "Backpressure"
  | rejected .. => "Rejected"

def message : LinkError → String
  | closed name => "Link " ++ name ++ " is closed"
  | backpressure name => "Link " ++ name ++ " is congested"
  | rejected name reason => "Link " ++ name ++ " rejected message: " ++ reason

def shown (error : LinkError) : String :=
  shownRecord error.kind <|
    match error with
    | closed name | backpressure name => [("name", shownText name)]
    | rejected name reason => [("name", shownText name), ("reason", shownText reason)]

end LinkError

/-- Why a configuration cannot be used. -/
inductive ConfigError
  | invalidValue (field reason : String)
  | serializationFailed (reason : String)
deriving DecidableEq, Repr

namespace ConfigError

def kind : ConfigError → String
  | invalidValue .. => "InvalidValue"
  | serializationFailed .. => "SerializationFailed"

def message : ConfigError → String
  | invalidValue field reason => "Invalid value for " ++ field ++ ": " ++ reason
  | serializationFailed reason => "Serialization failed: " ++ reason

def shown (error : ConfigError) : String :=
  shownRecord error.kind <|
    match error with
    | invalidValue field reason => [("field", shownText field), ("reason", shownText reason)]
    | serializationFailed reason => [("reason", shownText reason)]

end ConfigError

/-- Why a file could not be read or written. -/
inductive FileError
  | notFound
  | isADirectory
  | notADirectory
  | invalidName
  | invalidData
  | other (reason : String)
deriving DecidableEq, Repr

namespace FileError

def kind : FileError → String
  | notFound => "NotFound"
  | isADirectory => "IsADirectory"
  | notADirectory => "NotADirectory"
  | invalidName => "InvalidInput"
  | invalidData => "InvalidData"
  | other _ => "Other"

def message : FileError → String
  | notFound => "No such file or directory"
  | isADirectory => "Is a directory"
  | notADirectory => "Not a directory"
  | invalidName => "invalid file name"
  | invalidData => "stream did not contain valid UTF-8"
  | other reason => reason

def shown : FileError → String
  | other reason => shownRecord "Custom" [("kind", "Other"), ("error", shownText reason)]
  | error => error.kind

end FileError

/-- Every failure that the outside may see, under the concern it belongs to. -/
inductive BusError
  | routing (error : RoutingError)
  | link (error : LinkError)
  | config (error : ConfigError)
  | file (error : FileError)
deriving DecidableEq, Repr

namespace BusError

/-- The message of the failure itself, without its concern. -/
def cause : BusError → String
  | routing error => error.message
  | link error => error.message
  | config error => error.message
  | file error => error.message

def concern : BusError → String
  | routing _ => "Routing error: "
  | link _ => "Link error: "
  | config _ => "Configuration error: "
  | file _ => "I/O error: "

def message (error : BusError) : String := error.concern ++ error.cause

def kind : BusError → String
  | routing error => error.kind
  | link error => error.kind
  | config error => error.kind
  | file _ => "Io"

def shown : BusError → String
  | routing error => "Routing(" ++ error.shown ++ ")"
  | link error => "Link(" ++ error.shown ++ ")"
  | config error => "Config(" ++ error.shown ++ ")"
  | file error => "Io(" ++ error.shown ++ ")"

/-- Whether two failures are one and the same. Only routing failures and link failures are
compared at all, and only with their own kind. -/
def same? : BusError → BusError → Option Bool
  | routing a, routing b => some (a == b)
  | link a, link b => some (a == b)
  | _, _ => none

end BusError

/-- A promise that the caller of an operation broke. The operation did nothing. -/
inductive ContractViolation
  | emptyQueue (link : String)
  | endlessQueue
  | directSession (endpoint : String)
  | directSessionInTable
  | linkToStopping (endpoint : String)
deriving DecidableEq, Repr

/-- The most permits that the semaphore of a queue can give out, one for each waiting message. -/
def maxPermits : Nat := 2305843009213693951

def ContractViolation.message : ContractViolation → String
  | emptyQueue link => "queue link " ++ link ++ " needs a non-zero capacity"
  | endlessQueue =>
    "a semaphore may not have more than MAX_PERMITS permits (" ++ toString maxPermits ++ ")"
  | directSession endpoint =>
    "session route on " ++ endpoint ++ " requires a non-zero session id"
  | directSessionInTable => "assertion failed: !session_id.is_default()"
  | linkToStopping endpoint =>
    "assertion `left == right` failed: link added to stopping virtual endpoint " ++ endpoint
      ++ "\n  left: Stopping\n right: Started"

/-- Why a call gave no value: an error of its own concern, one that a router passes on, or a
broken promise. -/
inductive Failure
  | routing (error : RoutingError)
  | link (error : LinkError)
  | bus (error : BusError)
  | contract (violation : ContractViolation)
deriving DecidableEq, Repr

namespace Failure

def message : Failure → String
  | routing error => error.message
  | link error => error.message
  | bus error => error.message
  | contract violation => violation.message

/-- A router passes on an endpoint's own error under its concern; a broken promise stays one. -/
def fromRouter : Failure → Failure
  | routing error => bus (.routing error)
  | link error => bus (.link error)
  | failure => failure

end Failure

end DaemonMesh
