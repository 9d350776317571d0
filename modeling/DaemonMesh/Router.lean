import DaemonMesh.Config
import DaemonMesh.Endpoint
import DaemonMesh.Subscription

namespace DaemonMesh

/-- The endpoints of a daemon by name, each by its number in the mesh, and what the router gives
to the ones it makes and tells about the ones it retires. -/
structure Router where
  endpoints : OrderedMap String Nat
  selector : Selector
  registry : Nat
  config : RouterConfig

/-- The names under which endpoints are registered, ascending. -/
def Router.names (router : Router) : List String := router.endpoints.keys

/-- What the loss of a link cost: the endpoints that went with it, and the sessions that rode on it,
endpoint by endpoint. -/
structure LossReport where
  retired : List String
  lost : List (String × SessionId)
deriving DecidableEq, Repr

namespace LossReport

def empty : LossReport := ⟨[], []⟩

/-- What subscribers hear of the loss: every lost session before any retirement. -/
def events (report : LossReport) (reason : LossReason) : List RouteEvent :=
  report.lost.map (fun lost => .sessionLost lost.1 lost.2 reason) ++ report.retired.map .retired

end LossReport

end DaemonMesh
