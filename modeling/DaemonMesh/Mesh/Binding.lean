import DaemonMesh.Mesh.Holding

namespace DaemonMesh

namespace Mesh

/-- Binds a session in a bare table and takes the reference; says whether the link was a direct
path. That session 0 is turned down is a debug assertion: a build without them would go on and take
a reference for one more direct path. -/
def bindTable (mesh : Mesh) (id : Nat) (table : RouteTable) (session : SessionId) (link : Link) :
    Except Failure (Bool × Mesh) :=
  if session.isDirect then .error (.contract .directSessionInTable)
  else
    match table.bind? session link with
    | none => .ok (false, mesh)
    | some table => .ok (true, (mesh.setTable id table).acquire link)

/-- Takes the oldest binding of a session away in a bare table and gives its reference back. Here,
too, only builds with debug assertions turn session 0 down; others would take a direct path away. -/
def unbindTable (mesh : Mesh) (id : Nat) (table : RouteTable) (session : SessionId) :
    Except Failure (Option Link × Mesh) :=
  if session.isDirect then .error (.contract .directSessionInTable)
  else
    match table.unbind? session with
    | none => .ok (none, mesh)
    | some (link, table) => .ok (some link, (mesh.setTable id table).release link)

def removeFromTable (mesh : Mesh) (id : Nat) (table : RouteTable) (link : Link) :
    RemovedRoutes × Mesh :=
  let (removed, table) := table.removeLink link
  (removed, (mesh.setTable id table).releaseAll (removed.sessions.map fun _ => link))

/-- Adds a direct path to an endpoint. Direct paths take no reference. -/
def addLink (mesh : Mesh) (id : Nat) (endpoint : Endpoint) (link : Link) :
    Except Failure (Bool × Mesh) := do
  let (added, endpoint) ← endpoint.addLink link
  .ok (added, mesh.setEndpoint id endpoint)

/-- Takes every route of a link away from an endpoint and releases what they held. -/
def removeLink (mesh : Mesh) (id : Nat) (endpoint : Endpoint) (link : Link) : Bool × Mesh :=
  let (removed, emptied, endpoint) := endpoint.removeLink link
  (emptied, (mesh.setEndpoint id endpoint).releaseAll (removed.sessions.map fun _ => link))

def bind (mesh : Mesh) (id : Nat) (endpoint : Endpoint) (session : SessionId) (link : Link) :
    Except Failure Mesh := do
  let endpoint ← endpoint.bind session link
  .ok ((mesh.setEndpoint id endpoint).acquire link)

def bindChosen (mesh : Mesh) (id : Nat) (endpoint : Endpoint) (session : SessionId)
    (choice : Option Link) : Except Failure (Link × Mesh) := do
  let (link, endpoint) ← endpoint.bindChosen session choice
  .ok (link, (mesh.setEndpoint id endpoint).acquire link)

/-- Takes the oldest binding of a session away and says whether there was one. -/
def unbind (mesh : Mesh) (id : Nat) (endpoint : Endpoint) (session : SessionId) :
    Except Failure (Bool × Mesh) := do
  match ← endpoint.unbind session with
  | none => .ok (false, mesh)
  | some (link, endpoint) => .ok (true, (mesh.setEndpoint id endpoint).release link)

end Mesh

end DaemonMesh
