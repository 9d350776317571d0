import DaemonMesh.Config
import DaemonMesh.Message
import DaemonMesh.Selector
import DaemonMesh.Subscription

namespace DaemonMesh

/-- Which messages a scripted link refuses. -/
inductive Refusal
  | never
  | always
  | serials (refused : List UInt32)
deriving DecidableEq, Repr

def Refusal.covers (refusal : Refusal) (serial : UInt32) : Bool :=
  match refusal with
  | never => false
  | always => true
  | serials refused => refused.contains serial

/-- What a scripted link says when it refuses. -/
inductive RefusalCause
  | closed
  | backpressure
  | rejected (reason : String)
deriving DecidableEq, Repr

inductive LinkRequest
  | openQueue (name : String) (guid : Guid) (capacity : UInt64)
  | acquire
  | release
  | push (message : Message)
  | receive
  | drain
  | close
  | info
  | same (other : String)
deriving Repr

inductive TableRequest
  | new (direct : Option String)
  | drop
  | insert (link : String)
  | bind (session : SessionId) (link : String)
  | unbind (session : SessionId)
  | remove (link : String)
  | candidates (session : SessionId)
  | first (session : SessionId)
  | direct
  | hasDirect (link : String)
  | reaches (guid : Guid)
  | routesWithout (guid : Guid)
  | sessions (link : String)
  | hasNamed (names : List String)
  | links
  | info
  | select (session : SessionId) (opts : Option SessionOpts)

inductive EndpointRequest
  | new (name link : String) (selector : Selector)
  | drop
  | push (message : Message)
  | pushTo (message : Message) (session : SessionId)
  | addLink (link : String)
  | removeLink (link : String)
  | bind (session : SessionId) (link : String)
  | bindBest (session : SessionId) (opts : Option SessionOpts)
  | unbind (session : SessionId)
  | resolve (session : SessionId)
  | canUse (link : String)
  | sessions (link : String)
  | reachWithout (guid : Guid)
  | hasAny (names : List String)
  | info
  | same (other : String)

inductive EventRequest
  | new
  | unsubscribe (subscription : String)
  | count
  | dispatch (event : RouteEvent)

/-- How a router is set up: its selector, its configuration, and a registry to share, if any. -/
structure RouterSetup where
  selector : Selector
  config : RouterConfig
  sharedEvents : Option String

inductive RouterRequest
  | new (setup : RouterSetup)
  | openQueue (label name : String) (guid : Guid)
  | add (name link : String) (keepAs : Option String)
  | get (name : String) (keepAs : Option String)
  | route (name : String) (message : Message)
  | bind (name : String) (session : SessionId) (opts : Option SessionOpts)
  | unbind (name : String) (session : SessionId)
  | lost (link : String) (reason : LossReason)
  | unreachable (guid : Guid)
  | info
  | drop

/-- One step of a scenario, on objects that go by labels. Scripted links and subscribers take
scripts along: each time such a link is handed a message, or such a subscriber an event, it runs
the next of its scripts there and then. A malformed step is one that nobody can carry out. -/
inductive Step
  | link (label : String) (request : LinkRequest)
  | scriptLink (label name : String) (guid : Guid) (refusal : Refusal) (cause : RefusalCause)
      (scripts : List (List Step))
  | rescriptLink (label : String) (refusal : Option Refusal) (cause : Option RefusalCause)
      (scripts : Option (List (List Step)))
  | deliver (links : List String) (message : Message)
  | table (label : String) (request : TableRequest)
  | endpoint (label : String) (request : EndpointRequest)
  | subscribe (registry label : String) (scripts : List (List Step)) (crashes : Bool)
  | events (label : String) (request : EventRequest)
  | router (label : String) (request : RouterRequest)
  | malformed

mutual

/-- The scripts that a step brings along, however deep they lie. -/
def Step.scriptCount : Step → Nat
  | .scriptLink _ _ _ _ _ scripts => countScripts scripts
  | .rescriptLink _ _ _ scripts => countGivenScripts scripts
  | .subscribe _ _ scripts _ => countScripts scripts
  | _ => 0

def countInScript : List Step → Nat
  | [] => 0
  | step :: rest => step.scriptCount + countInScript rest

def countScripts : List (List Step) → Nat
  | [] => 0
  | script :: rest => 1 + countInScript script + countScripts rest

def countGivenScripts : Option (List (List Step)) → Nat
  | none => 0
  | some scripts => countScripts scripts

end

end DaemonMesh
