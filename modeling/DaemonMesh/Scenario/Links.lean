import DaemonMesh.Scenario.Traffic

namespace DaemonMesh

namespace World

/-- Goes on with the link of a label; a step that names no link cannot be carried out. -/
def withLink (world : World) (label : String) (go : Link → Outcome × World) : Outcome × World :=
  match world.labels.links.find? label with
  | none => (.malformed, world)
  | some link => go link

/-- The answer for a delivery, or for the failure that took its place. -/
def deliveryOutcome (world : World) : Except Failure Delivery → Outcome
  | .ok delivery => .answer (.delivered (world.labelOf delivery.link) delivery)
  | .error failure => .failed failure

def shownQueueLink (link : Link) (references : Nat) : String :=
  shownRecord "QueueLink"
    [("unique_name", shownText link.name), ("remote_guid", shownText link.guid.shortHex),
      ("refs", toString references)]

def linkInfo (world : World) (link : Link) : LinkInfo :=
  let references := world.mesh.count link
  { name := link.name
    guid := link.guid
    references
    queue :=
      match world.carrier? link with
      | some (.queue queue) => some (!queue.isOpen, queue.sent.toNat, shownQueueLink link references)
      | _ => none }

/-- A queue needs room for at least one message, and a permit for each that it has room for. -/
def openQueue (world : World) (label name : String) (guid : Guid) (capacity : Nat) :
    Outcome × World :=
  if capacity = 0 then (.failed (.contract (.emptyQueue name)), world)
  else if maxPermits < capacity then (.failed (.contract .endlessQueue), world)
  else (.answer .nothing, world.openLink label name guid (.queue (.opened capacity)))

/-- What can be done at the receiving end of a queue, as long as it is there. -/
def atReceiver (world : World) (link : Link) (go : Queue → Answer × Queue) : Outcome × World :=
  match world.carrier? link with
  | some (.queue queue) =>
    if queue.isOpen then
      let (answer, queue) := go queue
      (.answer answer, world.setCarrier link (.queue queue))
    else (.malformed, world)
  | _ => (.malformed, world)

/-- Only a receiving end that is there can be closed. -/
def closeReceiver (world : World) (link : Link) : Outcome × World :=
  match world.carrier? link with
  | some (.queue queue) => (.answer (.flag queue.isOpen), world.setCarrier link (.queue queue.close))
  | _ => (.answer (.flag false), world)

def performLink (perform : Performer) (world : World) (label : String) :
    LinkRequest → Outcome × World
  | .openQueue name guid capacity => world.openQueue label name guid capacity.toNat
  | .acquire => world.withLink label fun link =>
    let world := world.withMesh (world.mesh.acquire link)
    (.answer (.number (world.mesh.count link)), world)
  | .release => world.withLink label fun link =>
    let world := world.withMesh (world.mesh.release link)
    (.answer (.number (world.mesh.count link)), world)
  | .push message => world.withLink label fun link =>
    match world.push perform link message with
    | (none, world) => (.answer .nothing, world)
    | (some error, world) => (.failed (.link error), world)
  | .receive => world.withLink label fun link => world.atReceiver link fun queue =>
    let (received, queue) := queue.receive
    (.message received, queue)
  | .drain => world.withLink label fun link => world.atReceiver link fun queue =>
    let (received, queue) := queue.drain
    (.serials (received.map Message.serial), queue)
  | .close => world.withLink label world.closeReceiver
  | .info => world.withLink label fun link => (.answer (.linkInfo (world.linkInfo link)), world)
  | .same other => world.withLink label fun link => world.withLink other fun other =>
    (.answer (.flag (link == other)), world)

/-- Changes the given parts of what is laid down for a scripted link. -/
def rescript (world : World) (link : Link) (refusal : Option Refusal) (cause : Option RefusalCause)
    (scripts : Option (List (List Step))) : Outcome × World :=
  match world.carrier? link with
  | some (.scripted plan) =>
    (.answer .nothing, world.setCarrier link (.scripted
      { plan with
        refusal := refusal.getD plan.refusal
        cause := cause.getD plan.cause
        scripts := scripts.getD plan.scripts }))
  | _ => (.malformed, world)

/-- Sends a message over labelled links, without any endpoint. -/
def performDelivery (perform : Performer) (world : World) (labels : List String)
    (message : Message) : Outcome × World :=
  match labels.mapM world.labels.links.find? with
  | none => (.malformed, world)
  | some links =>
    match deliver (push perform) message links 0 world with
    | (.ok delivery, world) => (world.deliveryOutcome (.ok delivery), world)
    | (.error attempts, world) => (.answer (.undelivered attempts), world)

end World

end DaemonMesh
