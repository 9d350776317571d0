import DaemonMesh.Mesh.Holding

namespace DaemonMesh

namespace Mesh

/-- The endpoint that a router has under a name. -/
def lookup (mesh : Mesh) (router : Router) (name : String) : Option (Nat × Endpoint) := do
  let id ← router.endpoints.find? name
  let endpoint ← mesh.endpoint? id
  some (id, endpoint)

/-- The endpoints of a router by ascending name. -/
def registered (mesh : Mesh) (router : Router) : List (String × Endpoint) :=
  router.endpoints.entries.filterMap fun entry => (entry.1, ·) <$> mesh.endpoint? entry.2

def lookupOrFail (mesh : Mesh) (router : Router) (name : String) : Except Failure (Nat × Endpoint) :=
  match mesh.lookup router name with
  | none => .error (.bus (.routing (.unknownDestination name)))
  | some found => .ok found

/-- Puts a fresh endpoint over the link under the name. -/
def register (mesh : Mesh) (id : Nat) (router : Router) (name : String) (link : Link) : Nat × Mesh :=
  let (endpoint, mesh) := mesh.addEndpoint (.reachedBy name link router.selector)
  (endpoint, mesh.setRouter id { router with endpoints := router.endpoints.insert name endpoint })

/-- Makes a name reachable through a link: a started endpoint takes the link as another path, a
stopping one is replaced by a fresh one, and a missing one is made. -/
def reach (mesh : Mesh) (id : Nat) (router : Router) (name : String) (link : Link) : Nat × Mesh :=
  match mesh.lookup router name with
  | none => mesh.register id router name link
  | some (old, endpoint) =>
    match endpoint.tryAddLink link with
    | some (_, endpoint) => (old, mesh.setEndpoint old endpoint)
    | none =>
      let (fresh, mesh) := mesh.register id router name link
      (fresh, mesh.discardUnheld old)

/-- The names that would be cut off if a daemon went away, ascending. -/
def unreachableWithout (mesh : Mesh) (router : Router) (guid : Guid) : List String :=
  (mesh.registered router).filterMap fun entry =>
    if entry.2.routes.canRouteWithout guid then none else some entry.1

end Mesh

end DaemonMesh
