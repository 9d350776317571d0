import DaemonMesh.Scenario.World

namespace DaemonMesh

/-- How steps inside scripts are carried out. -/
abbrev Performer := World → Step → Outcome × World

namespace World

/-- Carries a script out step by step and witnesses how each step ended. -/
def runScript (perform : Performer) (witness : Outcome → TraceEntry) : List Step → World → World
  | [], world => world
  | step :: rest, world =>
    let (outcome, world) := perform world step
    runScript perform witness rest (world.record (witness outcome))

/-- Hands a message to a link. A scripted link decides first, then runs its next script, and sticks
to its decision whatever the script does. -/
def push (perform : Performer) (world : World) (link : Link) (message : Message) :
    Option LinkError × World :=
  match world.carrier? link with
  | none => (some (.closed link.name), world)
  | some (.queue queue) =>
    match queue.push link.name message with
    | .error error => (some error, world)
    | .ok queue => (none, world.setCarrier link (.queue queue))
  | some (.scripted plan) =>
    let refused := plan.refuse? link.name message
    let world := world.record (.pushed plan.label message refused.isNone)
    match plan.scripts with
    | [] => (refused, world)
    | script :: scripts =>
      (refused, (world.setCarrier link (.scripted { plan with scripts })).runScript perform
        (.linkStep plan.label) script)

/-- Sends a message over the links that the endpoint has for the session at this moment. The
endpoint is held until the sending is over, even if every other handle goes meanwhile. -/
def send (perform : Performer) (world : World) (id : Nat) (endpoint : Endpoint) (message : Message)
    (session : SessionId) : Except Failure Delivery × World :=
  let world := world.withMesh (world.mesh.holdEndpoint id)
  let (result, world) := deliver (push perform) message (endpoint.routes.candidates session) 0 world
  let world := world.withMesh (world.mesh.letGoEndpoint id)
  match result with
  | .ok delivery => (.ok delivery, world)
  | .error attempts => (.error (.routing (.noRoute endpoint.name session attempts)), world)

/-- A subscriber handles an event: it runs its next script, and crashes at the end if it is one that
does. -/
def notify (perform : Performer) (world : World) (entry : Subscription) (event : RouteEvent) :
    Completion × World :=
  match world.subscribers[entry.subscriber]? with
  | none => (.finished, world)
  | some subscriber =>
    let world := world.record (.notified subscriber.label event)
    let completion := if subscriber.crashes then .crashed else .finished
    match subscriber.scripts with
    | [] => (completion, world)
    | script :: scripts =>
      let subscribers := world.subscribers.set entry.subscriber { subscriber with scripts }
      (completion, { world with subscribers }.runScript perform (.subscriberStep subscriber.label)
        script)

/-- Tells the subscribers that a registry has at this moment. -/
def dispatch (perform : Performer) (registry : Nat) (world : World) (event : RouteEvent) : World :=
  announce (notify perform) event (world.mesh.registry registry).subscriptions world

/-- Tells events one after the other, each to the subscribers of its own moment. Gives back the
events that anybody heard. -/
def dispatchAll (perform : Performer) (registry : Nat) : List RouteEvent → World →
    List RouteEvent × World
  | [], world => ([], world)
  | event :: rest, world =>
    let alone := (world.mesh.registry registry).subscriptions.isEmpty
    let (heard, world) := dispatchAll perform registry rest (dispatch perform registry world event)
    (if alone then heard else event :: heard, world)

/-- A selector of one's own witnesses what it is asked. Nobody is asked about session 0. -/
def witnessSelection (world : World) (endpoint : Endpoint) (session : SessionId)
    (opts : Option SessionOpts) : World :=
  match endpoint.selector with
  | .firstAvailable => world
  | .custom _ =>
    if session.isDirect then world
    else world.record (.selected session opts endpoint.routes.size)

/-- Binds a session to the link that the endpoint's selector picks. -/
def bindBest (world : World) (id : Nat) (endpoint : Endpoint) (session : SessionId)
    (opts : Option SessionOpts) : Except Failure Link × World :=
  let choice := endpoint.selector.choose ⟨endpoint.routes, session, opts, world.labels.links.find?⟩
  let world := world.witnessSelection endpoint session opts
  match world.mesh.bindChosen id endpoint session choice with
  | .error failure => (.error failure, world)
  | .ok (link, mesh) => (.ok link, world.withMesh mesh)

/-- Reports a link as lost to a router whose endpoints are visited in the order given, and tells the
events to the router's registry by the means given. The whole routing state is changed before the
telling begins. Gives back the report, the world as the loss itself leaves it, what came of the
telling, and the world in which the call ends. -/
def loseLinkBy {Told : Type} (tell : Nat → List RouteEvent → World → Told × World) (world : World)
    (order : List Nat) (id : Nat) (router : Router) (link : Link) (reason : LossReason) :
    LossReport × World × Told × World :=
  let (report, mesh) := (world.mesh.holdRouter id).loseLinkIn order id link
  let lost := world.withMesh mesh
  let (told, after) := tell router.registry (report.events reason) lost
  (report, lost, told, after.withMesh (after.mesh.letGoRouter id))

/-- Reports a link as lost to a router, by ascending name of its endpoints. Gives back the report
and the events that anybody heard. -/
def loseLink (perform : Performer) (world : World) (id : Nat) (router : Router) (link : Link)
    (reason : LossReason) : LossReport × List RouteEvent × World :=
  let (report, _, heard, after) :=
    world.loseLinkBy (dispatchAll perform) router.endpoints.values id router link reason
  (report, heard, after)

/-- Sends a message to the endpoint of a name. The router is held until the sending is over. -/
def route (perform : Performer) (world : World) (id : Nat) (router : Router) (name : String)
    (message : Message) : Except Failure Delivery × World :=
  match world.mesh.lookupOrFail router name with
  | .error failure => (.error failure, world)
  | .ok (endpointId, endpoint) =>
    let world := world.withMesh (world.mesh.holdRouter id)
    let (result, world) := world.send perform endpointId endpoint message message.session
    (result.mapError Failure.fromRouter, world.withMesh (world.mesh.letGoRouter id))

end World

end DaemonMesh
