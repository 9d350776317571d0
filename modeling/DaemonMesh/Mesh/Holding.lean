import DaemonMesh.Mesh

namespace DaemonMesh

namespace Mesh

/-- Whether a living router has the endpoint registered. -/
def isRegistered (mesh : Mesh) (id : Nat) : Bool :=
  mesh.routers.any fun router => router.any fun router => router.endpoints.values.contains id

def isHeld (mesh : Mesh) (id : Nat) : Bool := mesh.endpointHandles.contains id || mesh.isRegistered id

/-- An endpoint that nobody holds any more goes, and gives back the references of its bindings. -/
def discardUnheld (mesh : Mesh) (id : Nat) : Mesh :=
  if mesh.isHeld id then mesh
  else
    match mesh.endpoint? id with
    | none => mesh
    | some endpoint =>
      { mesh with endpoints := mesh.endpoints.set id none }.releaseAll endpoint.routes.sessionLinks

def holdEndpoint (mesh : Mesh) (id : Nat) : Mesh :=
  { mesh with endpointHandles := id :: mesh.endpointHandles }

def letGoEndpoint (mesh : Mesh) (id : Nat) : Mesh :=
  { mesh with endpointHandles := mesh.endpointHandles.erase id }.discardUnheld id

def holdRouter (mesh : Mesh) (id : Nat) : Mesh :=
  { mesh with routerHandles := id :: mesh.routerHandles }

/-- With its last handle a router goes, and with it every endpoint that only the router held. -/
def letGoRouter (mesh : Mesh) (id : Nat) : Mesh :=
  let mesh := { mesh with routerHandles := mesh.routerHandles.erase id }
  if mesh.routerHandles.contains id then mesh
  else
    match mesh.router? id with
    | none => mesh
    | some router =>
      router.endpoints.values.foldl discardUnheld { mesh with routers := mesh.routers.set id none }

end Mesh

end DaemonMesh
