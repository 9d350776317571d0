import DaemonMesh.Scenario.Links

namespace DaemonMesh

namespace World

def withEndpoint (world : World) (label : String) (go : Nat → Endpoint → Outcome × World) :
    Outcome × World :=
  match world.endpointAt label with
  | none => (.malformed, world)
  | some (id, endpoint) => go id endpoint

/-- Goes on with an endpoint that is only looked at. -/
def askEndpoint (world : World) (label : String) (ask : Endpoint → Answer) : Outcome × World :=
  world.withEndpoint label fun _ endpoint => (.answer (ask endpoint), world)

/-- The answer for a link that was chosen. -/
def choiceOutcome (world : World) : Except Failure Link → Outcome
  | .ok link => .answer (.link (world.labelOf link))
  | .error failure => .failed failure

/-- Goes on with the new routing state of a call that says yes or no. -/
def flagOutcome (world : World) : Except Failure (Bool × Mesh) → Outcome × World
  | .ok (value, mesh) => (.answer (.flag value), world.withMesh mesh)
  | .error failure => (.failed failure, world)

def performEndpoint (perform : Performer) (world : World) (label : String) :
    EndpointRequest → Outcome × World
  | .new name link selector => world.withLink link fun link =>
    let (id, mesh) := world.mesh.addEndpoint (.reachedBy name link selector)
    (.answer .nothing, (world.withMesh mesh).nameEndpoint label id)
  | .drop => world.withEndpoint label fun _ _ => (.answer .nothing, world.dropEndpoint label)
  | .push message => world.withEndpoint label fun id endpoint =>
    let (result, world) := world.send perform id endpoint message message.session
    (world.deliveryOutcome result, world)
  | .pushTo message session => world.withEndpoint label fun id endpoint =>
    let (result, world) := world.send perform id endpoint message session
    (world.deliveryOutcome result, world)
  | .addLink link => world.withEndpoint label fun id endpoint => world.withLink link fun link =>
    world.flagOutcome (world.mesh.addLink id endpoint link)
  | .removeLink link => world.withEndpoint label fun id endpoint => world.withLink link fun link =>
    world.flagOutcome (.ok (world.mesh.removeLink id endpoint link))
  | .bind session link => world.withEndpoint label fun id endpoint => world.withLink link fun link =>
    match world.mesh.bind id endpoint session link with
    | .error failure => (.failed failure, world)
    | .ok mesh => (.answer .nothing, world.withMesh mesh)
  | .bindBest session opts => world.withEndpoint label fun id endpoint =>
    let (result, world) := world.bindBest id endpoint session opts
    (world.choiceOutcome result, world)
  | .unbind session => world.withEndpoint label fun id endpoint =>
    world.flagOutcome (world.mesh.unbind id endpoint session)
  | .resolve session => world.askEndpoint label fun endpoint =>
    let (first, count) := endpoint.routes.firstBound session
    .countedLink (first.bind world.labelOf) count
  | .canUse link => world.withLink link fun link =>
    world.askEndpoint label fun endpoint => .flag (endpoint.routes.hasDirect link)
  | .sessions link => world.withLink link fun link =>
    world.askEndpoint label fun endpoint => .sessions (endpoint.routes.sessionsOf link)
  | .reachWithout guid => world.askEndpoint label fun endpoint =>
    .flag (endpoint.routes.canRouteWithout guid)
  | .hasAny names => world.askEndpoint label fun endpoint =>
    .flag (endpoint.routes.hasLinkNamed names)
  | .info => world.askEndpoint label fun endpoint =>
    .endpointInfo ⟨endpoint.name, endpoint.state, endpoint.everBound, endpoint.routes.size⟩
  | .same other => world.withEndpoint label fun id _ => world.withEndpoint other fun otherId _ =>
    (.answer (.flag (id == otherId)), world)

end World

end DaemonMesh
