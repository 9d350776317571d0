import DaemonMesh.Scenario.Links

namespace DaemonMesh

namespace World

def withTable (world : World) (label : String) (go : Nat → RouteTable → Outcome × World) :
    Outcome × World :=
  match world.tableAt label with
  | none => (.malformed, world)
  | some (id, table) => go id table

/-- Goes on with a table that is only looked at. -/
def askTable (world : World) (label : String) (ask : RouteTable → Answer) : Outcome × World :=
  world.withTable label fun _ table => (.answer (ask table), world)

def performTable (world : World) (label : String) : TableRequest → Outcome × World
  | .new none => (.answer .nothing, world.nameTable label .empty)
  | .new (some direct) => world.withLink direct fun link =>
    (.answer .nothing, world.nameTable label (.withDirect link))
  | .drop => world.withTable label fun _ _ => (.answer .nothing, world.dropTable label)
  | .insert link => world.withTable label fun id table => world.withLink link fun link =>
    let (added, table) := table.insertDirect link
    (.answer (.flag added), world.withMesh (world.mesh.setTable id table))
  | .bind session link => world.withTable label fun id table => world.withLink link fun link =>
    match world.mesh.bindTable id table session link with
    | .error failure => (.failed failure, world)
    | .ok (bound, mesh) => (.answer (.flag bound), world.withMesh mesh)
  | .unbind session => world.withTable label fun id table =>
    match world.mesh.unbindTable id table session with
    | .error failure => (.failed failure, world)
    | .ok (removed, mesh) => (.answer (.link (removed.bind world.labelOf)), world.withMesh mesh)
  | .remove link => world.withTable label fun id table => world.withLink link fun link =>
    let (removed, mesh) := world.mesh.removeFromTable id table link
    (.answer (.removed removed), world.withMesh mesh)
  | .candidates session => world.askTable label fun table =>
    .links ((table.candidates session).map world.labelOf)
  | .first session => world.askTable label fun table =>
    let (first, count) := table.firstBound session
    .countedLink (first.bind world.labelOf) count
  | .direct => world.askTable label fun table => .links (table.directLinks.map world.labelOf)
  | .hasDirect link => world.withLink link fun link =>
    world.askTable label fun table => .flag (table.hasDirect link)
  | .reaches guid => world.askTable label fun table => .flag (table.reaches guid)
  | .routesWithout guid => world.askTable label fun table => .flag (table.canRouteWithout guid)
  | .sessions link => world.withLink link fun link =>
    world.askTable label fun table => .sessions (table.sessionsOf link)
  | .hasNamed names => world.askTable label fun table => .flag (table.hasLinkNamed names)
  | .links => world.askTable label fun table => .links (table.links.map world.labelOf)
  | .info => world.askTable label fun table =>
    .tableInfo ⟨table.size, table.isEmpty, table.hasSessionRoutes⟩
  | .select session _ => world.askTable label fun table =>
    .link ((Selector.chooseFirst table session).bind world.labelOf)

end World

end DaemonMesh
