import DaemonMesh.Scenario.Run

namespace DaemonMesh

/-- What daemon B of a full mesh saw when daemon A left: the sessions it had bound and the links
they were bound to, the attachments that depended on A, what the loss cost and what was heard of it,
how a last message fared, and what the writers of both links wrote. -/
structure Departure where
  bound : List (SessionId × Link)
  unreachable : List String
  report : LossReport
  heard : List RouteEvent
  last : Except Failure Delivery
  writtenToA : List Message
  writtenToC : List Message

namespace Departure

def reason : LossReason := .remoteEndClosedAbruptly

/-- The attachment that lives on A and is known to C as well. -/
def attachment : String := ":a.5"

def call (serial : UInt32) : Message := .methodCall serial ":b.1" attachment "Hello"

/-- Binds a session, whatever link that brings, and sends a first message in it. -/
def bindAndCall (router : Nat) (world : World) (session : SessionId) :
    Except Failure (Link × World) :=
  match world.mesh.router? router with
  | none => .error (.bus (.routing (.unknownDestination attachment)))
  | some current => do
    let (id, endpoint) ← world.mesh.lookupOrFail current attachment
    let (chosen, world) := world.bindBest id endpoint session none
    let link ← chosen.mapError Failure.fromRouter
    let (sent, world) := world.route World.noScripts router current attachment
      ((call session.number).withSession session)
    let _ ← sent
    .ok (link, world)

/-- The writer of a link writes the messages that have waited longest, as many as it gets to. -/
def write (link : Link) : Nat → World → List Message × World
  | 0, world => ([], world)
  | amount + 1, world =>
    match world.carrier? link with
    | some (.queue queue) =>
      let (received, queue) := queue.receive
      let (later, world) := write link amount (world.setCarrier link (.queue queue))
      (received.toList ++ later, world)
    | _ => ([], world)

/-- Binds the sessions one after the other. After each, A's writer writes as much as its pace
allows; what it has written in the end is given back as well. -/
def bindAll (pace : SessionId → Nat) (router : Nat) (toA : Link) :
    List SessionId → World → Except Failure (List (SessionId × Link) × List Message × World)
  | [], world => .ok ([], [], world)
  | session :: rest, world => do
    let (link, world) ← bindAndCall router world session
    let (written, world) := write toA (pace session) world
    let (bound, later, world) ← bindAll pace router toA rest world
    .ok ((session, link) :: bound, written ++ later, world)

/-- Sessions 1 to the count. -/
def sessions (count : Nat) : List SessionId :=
  (List.range count).map fun n => ⟨UInt32.ofNat (n + 1)⟩

/-- Makes the attachment reachable through a link. -/
def reach (router : Nat) (world : World) (link : Link) : World :=
  match world.mesh.router? router with
  | none => world
  | some current => world.withMesh (world.mesh.reach router current attachment link).2

def waiting (world : World) (link : Link) : List Message :=
  match world.carrier? link with
  | some (.queue queue) => queue.waiting
  | _ => []

/-- The links to A and to C, the attachment over both with A first, a session for each number up to
the count with one message in each; then A's link is lost and one more message is sent. The writers
of both links run beside all this: A's at its pace, and in the end both write what still waits.
Before the last message there is nothing that C's could write. -/
def runAt (pace : SessionId → Nat) (config : RouterConfig) (count : Nat) (guidA guidC : Guid) :
    Except Failure Departure := do
  let queue := Carrier.queue (.opened config.queueCapacity.toNat)
  let (registry, mesh) := World.empty.mesh.addRegistry
  let (router, mesh) := mesh.addRouter ⟨.empty, .firstAvailable, registry, config⟩
  let world := World.empty.withMesh (mesh.holdRouter router)
  let (_, world) := world.subscribe registry ⟨"log", [], false⟩
  let (toA, world) := world.addLink ":a.1" guidA queue
  let (toC, world) := world.addLink ":c.1" guidC queue
  let world := reach router (reach router world toA) toC
  let (bound, written, world) ← bindAll pace router toA (sessions count) world
  match world.mesh.router? router with
  | none => .error (.bus (.routing (.unknownDestination attachment)))
  | some current =>
    let unreachable := world.mesh.unreachableWithout current guidA
    let (report, heard, world) :=
      world.loseLink World.noScripts router current toA reason
    let current := (world.mesh.router? router).getD current
    let (last, world) := world.route World.noScripts router current attachment (call 100)
    .ok {
      bound, unreachable, report, heard, last
      writtenToA := written ++ waiting world toA
      writtenToC := waiting world toC }

/-- One schedule of the writers: they wait for the end, and write everything then. -/
def run (config : RouterConfig) (count : Nat) (guidA guidC : Guid) : Except Failure Departure :=
  runAt (fun _ => 0) config count guidA guidC

end Departure

end DaemonMesh
