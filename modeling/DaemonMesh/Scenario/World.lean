import DaemonMesh.Mesh.LinkLoss
import DaemonMesh.Mesh.Registration
import DaemonMesh.Delivery
import DaemonMesh.Scenario.Answer

namespace DaemonMesh

/-- A link whose answers and side effects are laid down beforehand. It knows the label that it was
made under. -/
structure ScriptedLink where
  label : String
  refusal : Refusal
  cause : RefusalCause
  scripts : List (List Step)

/-- What the link says to a message, or nothing if it takes it. -/
def ScriptedLink.refuse? (plan : ScriptedLink) (name : String) (message : Message) :
    Option LinkError :=
  if plan.refusal.covers message.serial then
    some <|
      match plan.cause with
      | .closed => .closed name
      | .backpressure => .backpressure name
      | .rejected reason => .rejected name reason
  else none

/-- What stands behind a link. -/
inductive Carrier
  | queue (queue : Queue)
  | scripted (plan : ScriptedLink)

/-- The scripts that the link still has to run. -/
def Carrier.scripts : Carrier → List (List Step)
  | queue _ => []
  | scripted plan => plan.scripts

/-- A subscriber with the scripts it still has to run, one for each event. -/
structure Subscriber where
  label : String
  scripts : List (List Step)
  crashes : Bool

/-- Who goes by which label. Subscriptions are remembered by their handle's number. -/
structure Labels where
  links : OrderedMap String Link
  tables : OrderedMap String Nat
  endpoints : OrderedMap String Nat
  registries : OrderedMap String Nat
  subscriptions : OrderedMap String Nat
  routers : OrderedMap String Nat

def Labels.empty : Labels := ⟨.empty, .empty, .empty, .empty, .empty, .empty⟩

/-- The routing state, what stands behind its links and subscribers, the labels, and what was
witnessed since the last step from outside began. -/
structure World where
  mesh : Mesh
  carriers : List Carrier
  subscribers : List Subscriber
  labels : Labels
  trace : List TraceEntry

namespace World

def empty : World := ⟨.empty, [], [], .empty, []⟩

def record (world : World) (entry : TraceEntry) : World :=
  { world with trace := world.trace ++ [entry] }

def carrier? (world : World) (link : Link) : Option Carrier := world.carriers[link.number]?

def setCarrier (world : World) (link : Link) (carrier : Carrier) : World :=
  { world with carriers := world.carriers.set link.number carrier }

/-- Scripted links witness a release at count zero. -/
def underflow? (world : World) (link : Link) : Option TraceEntry :=
  match world.carrier? link with
  | some (.scripted plan) => some (.underflow plan.label)
  | _ => none

/-- Goes on with a new routing state; what it notes beyond the old one of overdrawn links is
witnessed. -/
def withMesh (world : World) (mesh : Mesh) : World :=
  { world with
    mesh
    trace := world.trace
      ++ (mesh.overdrawn.drop world.mesh.overdrawn.length).filterMap world.underflow? }

/-- The first label, in order, that a link goes by. -/
def labelOf (world : World) (link : Link) : Option String :=
  world.labels.links.keyWhere? fun other => other == link

/-- Whoever went by the label lost its receiving end with it. -/
def closeLabelled (world : World) (label : String) : World :=
  match world.labels.links.find? label with
  | none => world
  | some link =>
    match world.carrier? link with
    | some (.queue queue) => world.setCarrier link (.queue queue.close)
    | _ => world

/-- Makes a link over the carrier. -/
def addLink (world : World) (name : String) (guid : Guid) (carrier : Carrier) : Link × World :=
  let (link, mesh) := world.mesh.openLink name guid
  (link, { world.withMesh mesh with carriers := world.carriers ++ [carrier] })

/-- Makes a link over the carrier, under the label. -/
def openLink (world : World) (label name : String) (guid : Guid) (carrier : Carrier) : World :=
  let (link, world) := (world.closeLabelled label).addLink name guid carrier
  { world with labels := { world.labels with links := world.labels.links.insert label link } }

def endpointAt (world : World) (label : String) : Option (Nat × Endpoint) := do
  let id ← world.labels.endpoints.find? label
  let endpoint ← world.mesh.endpoint? id
  some (id, endpoint)

def routerAt (world : World) (label : String) : Option (Nat × Router) := do
  let id ← world.labels.routers.find? label
  let router ← world.mesh.router? id
  some (id, router)

def tableAt (world : World) (label : String) : Option (Nat × RouteTable) := do
  let id ← world.labels.tables.find? label
  let table ← world.mesh.table? id
  some (id, table)

def dropTable (world : World) (label : String) : World :=
  match world.labels.tables.find? label with
  | none => world
  | some id =>
    { world.withMesh (world.mesh.dropTable id) with
      labels := { world.labels with tables := world.labels.tables.erase label } }

def nameTable (world : World) (label : String) (table : RouteTable) : World :=
  let world := world.dropTable label
  let (id, mesh) := world.mesh.addTable table
  { world.withMesh mesh with
    labels := { world.labels with tables := world.labels.tables.insert label id } }

def dropEndpoint (world : World) (label : String) : World :=
  match world.labels.endpoints.find? label with
  | none => world
  | some id =>
    { world.withMesh (world.mesh.letGoEndpoint id) with
      labels := { world.labels with endpoints := world.labels.endpoints.erase label } }

/-- The new handle is taken before the old one is let go, in case both are on one endpoint. -/
def nameEndpoint (world : World) (label : String) (id : Nat) : World :=
  let world := (world.withMesh (world.mesh.holdEndpoint id)).dropEndpoint label
  { world with labels := { world.labels with endpoints := world.labels.endpoints.insert label id } }

def dropRouter (world : World) (label : String) : World :=
  match world.labels.routers.find? label with
  | none => world
  | some id =>
    { world.withMesh (world.mesh.letGoRouter id) with
      labels := { world.labels with routers := world.labels.routers.erase label } }

def nameRouter (world : World) (label : String) (router : Router) : World :=
  let world := world.dropRouter label
  let (id, mesh) := world.mesh.addRouter router
  { world.withMesh (mesh.holdRouter id) with
    labels := { world.labels with routers := world.labels.routers.insert label id } }

def nameRegistry (world : World) (label : String) (id : Nat) : World :=
  { world with labels := { world.labels with registries := world.labels.registries.insert label id } }

/-- The references on every labelled link that has any, by label. -/
def references (world : World) : List (String × Nat) :=
  (world.labels.links.entries.map fun entry => (entry.1, world.mesh.count entry.2)).filter
    fun entry => entry.2 ≠ 0

/-- All scripts that wait somewhere in the world, however deep they lie. -/
def scriptCount (world : World) : Nat :=
  countScripts (world.carriers.flatMap Carrier.scripts)
    + countScripts (world.subscribers.flatMap Subscriber.scripts)

end World

end DaemonMesh
