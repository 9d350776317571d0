import DaemonMesh.Scenario.Endpoints
import DaemonMesh.Scenario.Events

namespace DaemonMesh

namespace World

def withRouter (world : World) (label : String) (go : Nat → Router → Outcome × World) :
    Outcome × World :=
  match world.routerAt label with
  | none => (.malformed, world)
  | some (id, router) => go id router

/-- The registry that a new router is given: a shared one, or one of its own. -/
def registryFor (world : World) : Option String → Option (Nat × World)
  | none =>
    let (id, mesh) := world.mesh.addRegistry
    some (id, world.withMesh mesh)
  | some label => (·, world) <$> world.labels.registries.find? label

/-- Builds a router from a usable configuration. Its registry goes by the router's label, too. -/
def openRouter (world : World) (label : String) (setup : RouterSetup) : Outcome × World :=
  match world.registryFor setup.sharedEvents with
  | none => (.malformed, world)
  | some (registry, prepared) =>
    match setup.config.validate with
    | .error error => (.failed (.bus (.config error)), world)
    | .ok () =>
      (.answer .nothing,
        (prepared.nameRouter label ⟨.empty, setup.selector, registry, setup.config⟩).nameRegistry
          label registry)

/-- Keeps an endpoint under a label, if one is given. -/
def keep (world : World) (id : Nat) : Option String → World
  | none => world
  | some label => world.nameEndpoint label id

def performRouter (perform : Performer) (world : World) (label : String) :
    RouterRequest → Outcome × World
  | .new setup => world.openRouter label setup
  | .openQueue link name guid => world.withRouter label fun _ router =>
    world.openQueue link name guid router.config.queueCapacity.toNat
  | .add name link keepAs => world.withRouter label fun id router => world.withLink link fun link =>
    let (endpointId, mesh) := world.mesh.reach id router name link
    let routes := (mesh.endpoint? endpointId).elim 0 fun endpoint => endpoint.routes.size
    (.answer (.number routes), (world.withMesh mesh).keep endpointId keepAs)
  | .get name keepAs => world.withRouter label fun _ router =>
    match world.mesh.lookup router name with
    | none => (.answer (.flag false), world)
    | some (id, _) => (.answer (.flag true), world.keep id keepAs)
  | .route name message => world.withRouter label fun id router =>
    let (result, world) := world.route perform id router name message
    (world.deliveryOutcome result, world)
  | .bind name session opts => world.withRouter label fun _ router =>
    match world.mesh.lookupOrFail router name with
    | .error failure => (.failed failure, world)
    | .ok (id, endpoint) =>
      let (result, world) := world.bindBest id endpoint session opts
      (world.choiceOutcome (result.mapError Failure.fromRouter), world)
  | .unbind name session => world.withRouter label fun _ router =>
    world.flagOutcome do
      let (id, endpoint) ← world.mesh.lookupOrFail router name
      (world.mesh.unbind id endpoint session).mapError Failure.fromRouter
  | .lost link reason => world.withRouter label fun id router => world.withLink link fun link =>
    let (report, heard, world) := world.loseLink perform id router link reason
    (.answer (.loss report heard), world)
  | .unreachable guid => world.withRouter label fun _ router =>
    (.answer (.names (world.mesh.unreachableWithout router guid)), world)
  | .info => world.withRouter label fun _ router =>
    (.answer (.routerInfo
      ⟨router.names, router.config, (world.mesh.registry router.registry).count⟩), world)
  | .drop => world.withRouter label fun _ _ => (.answer .nothing, world.dropRouter label)

end World

end DaemonMesh
