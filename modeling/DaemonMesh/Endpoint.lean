import DaemonMesh.Failure
import DaemonMesh.Selector

namespace DaemonMesh

inductive EndpointState
  | started
  | stopping
deriving DecidableEq, Repr

def EndpointState.name : EndpointState → String
  | started => "Started"
  | stopping => "Stopping"

/-- A stand-in for an attachment behind a remote daemon. `everBound` remembers that some session was
bound once; nothing takes it back. -/
structure Endpoint where
  name : String
  state : EndpointState
  everBound : Bool
  routes : RouteTable
  selector : Selector

namespace Endpoint

def reachedBy (name : String) (link : Link) (selector : Selector) : Endpoint :=
  ⟨name, .started, false, .withDirect link, selector⟩

def isStopping (endpoint : Endpoint) : Bool := endpoint.state == .stopping

/-- Adds a direct path and says whether it is new. A stopping endpoint takes none. -/
def tryAddLink (endpoint : Endpoint) (link : Link) : Option (Bool × Endpoint) :=
  if endpoint.isStopping then none
  else
    let (added, routes) := endpoint.routes.insertDirect link
    some (added, { endpoint with routes })

def addLink (endpoint : Endpoint) (link : Link) : Except Failure (Bool × Endpoint) :=
  match endpoint.tryAddLink link with
  | none => .error (.contract (.linkToStopping endpoint.name))
  | some added => .ok added

/-- Whether nothing usable is left behind a removed link. As long as no session was ever bound,
any path counts. After that, only session routes and parallel paths to the same daemon do: in a
full mesh every daemon would otherwise keep a departed one alive through the others. -/
def leftEmpty (everBound : Bool) (routes : RouteTable) (removed : Link) : Bool :=
  if everBound then !routes.hasSessionRoutes && !routes.reaches removed.guid else routes.isEmpty

/-- Takes every route of a link away and stops the endpoint if that leaves it empty. -/
def removeLink (endpoint : Endpoint) (link : Link) : RemovedRoutes × Bool × Endpoint :=
  let (removed, routes) := endpoint.routes.removeLink link
  let emptied := leftEmpty endpoint.everBound routes link
  (removed, emptied,
    { endpoint with routes, state := if emptied then .stopping else endpoint.state })

/-- Binds a session to a direct path. -/
def bind (endpoint : Endpoint) (session : SessionId) (link : Link) : Except Failure Endpoint :=
  if session.isDirect then .error (.contract (.directSession endpoint.name))
  else
    match endpoint.routes.bind? session link with
    | none => .error (.routing (.noEndpoint endpoint.name session))
    | some routes => .ok { endpoint with routes, everBound := true }

/-- Binds a session to the link that was chosen for it, if one was. -/
def bindChosen (endpoint : Endpoint) (session : SessionId) (choice : Option Link) :
    Except Failure (Link × Endpoint) :=
  if session.isDirect then .error (.contract (.directSession endpoint.name))
  else
    match choice with
    | none => .error (.routing (.noEndpoint endpoint.name session))
    | some link => (link, ·) <$> endpoint.bind session link

/-- Takes the oldest binding of a session away. -/
def unbind (endpoint : Endpoint) (session : SessionId) :
    Except Failure (Option (Link × Endpoint)) :=
  if session.isDirect then .error (.contract (.directSession endpoint.name))
  else
    .ok ((endpoint.routes.unbind? session).map fun removed =>
      (removed.1, { endpoint with routes := removed.2 }))

def shown (endpoint : Endpoint) : String :=
  shownRecord "VirtualEndpoint"
    [("unique_name", shownText endpoint.name), ("state", endpoint.state.name),
      ("has_refs", toString endpoint.everBound), ("routes", endpoint.routes.shown)]

end Endpoint

end DaemonMesh
