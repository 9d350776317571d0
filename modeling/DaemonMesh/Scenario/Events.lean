import DaemonMesh.Scenario.Traffic

namespace DaemonMesh

namespace World

def withRegistry (world : World) (label : String) (go : Nat → Outcome × World) : Outcome × World :=
  match world.labels.registries.find? label with
  | none => (.malformed, world)
  | some id => go id

/-- A label that is used again goes over to the new subscription; the old one stays registered. -/
def subscribe (world : World) (registry : Nat) (subscriber : Subscriber) : Outcome × World :=
  let (handle, entries) := (world.mesh.registry registry).subscribe world.subscribers.length
  (.answer (.text (shownHandle handle)),
    { world.withMesh (world.mesh.setRegistry registry entries) with
      subscribers := world.subscribers ++ [subscriber]
      labels :=
        { world.labels with
          subscriptions := world.labels.subscriptions.insert subscriber.label handle } })

def performEvents (perform : Performer) (world : World) (label : String) :
    EventRequest → Outcome × World
  | .new =>
    let (id, mesh) := world.mesh.addRegistry
    (.answer .nothing, (world.withMesh mesh).nameRegistry label id)
  | .unsubscribe subscription => world.withRegistry label fun id =>
    match world.labels.subscriptions.find? subscription with
    | none => (.malformed, world)
    | some handle =>
      let entries := (world.mesh.registry id).unsubscribe handle
      (.answer (.number entries.count), world.withMesh (world.mesh.setRegistry id entries))
  | .count => world.withRegistry label fun id =>
    (.answer (.number (world.mesh.registry id).count), world)
  | .dispatch event => world.withRegistry label fun id =>
    let (heard, world) := dispatchAll perform id [event] world
    (.answer (.heard heard), world)

end World

end DaemonMesh
