import DaemonMesh.Delivery
import DaemonMesh.Router
import DaemonMesh.Scenario.Step

namespace DaemonMesh

/-- What is to be known of a link: of a queue link also whether it is closed, how many messages it
took, and its text. -/
structure LinkInfo where
  name : String
  guid : Guid
  references : Nat
  queue : Option (Bool × Nat × String)
deriving DecidableEq, Repr

structure TableInfo where
  size : Nat
  isEmpty : Bool
  hasSessionRoutes : Bool
deriving DecidableEq, Repr

structure EndpointInfo where
  name : String
  state : EndpointState
  everBound : Bool
  routeCount : Nat
deriving DecidableEq, Repr

structure RouterInfo where
  names : List String
  config : RouterConfig
  subscribers : Nat
deriving DecidableEq, Repr

/-- What a step gives back. A link is given as a label that it goes by, if it goes by any. -/
inductive Answer
  | nothing
  | flag (value : Bool)
  | number (value : Nat)
  | text (value : String)
  | link (label : Option String)
  | links (labels : List (Option String))
  | countedLink (label : Option String) (count : Nat)
  | sessions (ids : List SessionId)
  | names (names : List String)
  | serials (serials : List UInt32)
  | message (received : Option Message)
  | delivered (label : Option String) (delivery : Delivery)
  | undelivered (attempts : Nat)
  | removed (routes : RemovedRoutes)
  | linkInfo (info : LinkInfo)
  | tableInfo (info : TableInfo)
  | endpointInfo (info : EndpointInfo)
  | routerInfo (info : RouterInfo)
  | heard (events : List RouteEvent)
  | loss (report : LossReport) (heard : List RouteEvent)
deriving DecidableEq, Repr

/-- How a step ended. -/
inductive Outcome
  | answer (answer : Answer)
  | failed (failure : Failure)
  | malformed
deriving DecidableEq, Repr

/-- What scripted objects witness inside a step. -/
inductive TraceEntry
  | underflow (link : String)
  | selected (session : SessionId) (opts : Option SessionOpts) (entries : Nat)
  | pushed (link : String) (message : Message) (accepted : Bool)
  | linkStep (link : String) (outcome : Outcome)
  | notified (subscriber : String) (event : RouteEvent)
  | subscriberStep (subscriber : String) (outcome : Outcome)
deriving DecidableEq, Repr

end DaemonMesh
