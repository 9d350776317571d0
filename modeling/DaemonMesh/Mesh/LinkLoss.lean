import DaemonMesh.Mesh.Binding

namespace DaemonMesh

namespace Mesh

/-- Takes an endpoint off a router, if this very endpoint still stands there under its name. -/
def retire (mesh : Mesh) (router : Nat) (name : String) (id : Nat) : Bool × Mesh :=
  match mesh.router? router with
  | none => (false, mesh)
  | some current =>
    if current.endpoints.find? name = some id then
      (true, (mesh.setRouter router { current with endpoints := current.endpoints.erase name })
        |>.discardUnheld id)
    else (false, mesh)

/-- One endpoint's part in the loss of a link. Bindings ride on direct paths, so an endpoint without
the link among its direct paths has nothing to lose. -/
def loseAt (router : Nat) (link : Link) (state : LossReport × Mesh) (id : Nat) : LossReport × Mesh :=
  let (report, mesh) := state
  match mesh.endpoint? id with
  | none => state
  | some endpoint =>
    if !endpoint.routes.hasDirect link then state
    else
      let sessions := endpoint.routes.sessionsOf link
      let (emptied, mesh) := mesh.removeLink id endpoint link
      let (retired, mesh) := if emptied then mesh.retire router endpoint.name id else (false, mesh)
      (⟨if retired then report.retired ++ [endpoint.name] else report.retired,
        report.lost ++ sessions.map fun session => (endpoint.name, session)⟩, mesh)

/-- Takes a link away from the endpoints in the order given and retires the ones left empty. -/
def loseLinkIn (mesh : Mesh) (order : List Nat) (router : Nat) (link : Link) : LossReport × Mesh :=
  order.foldl (loseAt router link) (.empty, mesh)

/-- Takes a link away from every endpoint of a router, by ascending name. -/
def loseLink (mesh : Mesh) (id : Nat) (router : Router) (link : Link) : LossReport × Mesh :=
  mesh.loseLinkIn router.endpoints.values id link

end Mesh

end DaemonMesh
