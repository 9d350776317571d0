import DaemonMesh.Proofs.LossEffect

namespace DaemonMesh

namespace Mesh

variable {mesh : Mesh} {id : Nat}

theorem letGo_holdEndpoint (registered : mesh.isRegistered id = true) :
    (mesh.holdEndpoint id).letGoEndpoint id = mesh := by
  have kept : ({ mesh with endpointHandles := (id :: mesh.endpointHandles).erase id } : Mesh) =
      mesh := by
    rw [List.erase_cons_head]
  unfold holdEndpoint letGoEndpoint
  rw [kept]
  unfold discardUnheld
  exact if_pos (by rw [isHeld, registered, Bool.or_true])

theorem letGo_holdRouter (held : id ∈ mesh.routerHandles) :
    (mesh.holdRouter id).letGoRouter id = mesh := by
  have again : (mesh.holdRouter id).routerHandles.erase id = mesh.routerHandles :=
    List.erase_cons_head _ _
  rw [letGoRouter_held (by rwa [again]), again]
  rfl

end Mesh

namespace World

variable (perform : Performer) (world : World) {id number : Nat} {router : Router}
  {endpoint : Endpoint} {message : Message} {link : Link} {rest : List Link} {queue pushed : Queue}

/-- What is put behind a link while a handle is held stays there, and the handle leaves no trace. -/
theorem setCarrier_within {mesh : Mesh} (quiet : mesh.overdrawn = world.mesh.overdrawn)
    (link : Link) (carrier : Carrier) :
    ((world.withMesh mesh).setCarrier link carrier).withMesh world.mesh =
      world.setCarrier link carrier := by
  simp [withMesh, setCarrier, quiet]

theorem push_queued (carried : world.carrier? link = some (.queue queue))
    (taken : queue.push link.name message = .ok pushed) :
    world.push perform link message = (none, world.setCarrier link (.queue pushed)) := by
  unfold push
  simp only [carried, taken]

theorem deliver_queued (rest : List Link) (carried : world.carrier? link = some (.queue queue))
    (taken : queue.push link.name message = .ok pushed) :
    deliver (push perform) message (link :: rest) 0 world =
      (.ok ⟨link, 1⟩, world.setCarrier link (.queue pushed)) := by
  unfold deliver
  rw [push_queued perform world carried taken]

/-- A sending whose first candidate is a queue with room ends there. -/
theorem send_queued {session : SessionId} (registered : world.mesh.isRegistered number = true)
    (offered : endpoint.routes.candidates session = link :: rest)
    (carried : world.carrier? link = some (.queue queue))
    (taken : queue.push link.name message = .ok pushed) :
    world.send perform number endpoint message session =
      (.ok ⟨link, 1⟩, world.setCarrier link (.queue pushed)) := by
  have delivered :=
    deliver_queued perform (world.withMesh (world.mesh.holdEndpoint number)) rest carried taken
  unfold send
  rw [offered]
  dsimp only
  rw [delivered]
  refine Prod.ext rfl ?_
  show (setCarrier _ link _).withMesh ((world.mesh.holdEndpoint number).letGoEndpoint number) = _
  rw [Mesh.letGo_holdEndpoint registered]
  exact world.setCarrier_within rfl link _

theorem route_queued {name : String}
    (found : world.mesh.lookupOrFail router name = .ok (number, endpoint))
    (held : id ∈ world.mesh.routerHandles) (registered : world.mesh.isRegistered number = true)
    (offered : endpoint.routes.candidates message.session = link :: rest)
    (carried : world.carrier? link = some (.queue queue))
    (taken : queue.push link.name message = .ok pushed) :
    world.route perform id router name message =
      (.ok ⟨link, 1⟩, world.setCarrier link (.queue pushed)) := by
  have sent := send_queued perform (world.withMesh (world.mesh.holdRouter id)) registered offered
    carried taken
  unfold route
  rw [found]
  dsimp only
  rw [sent]
  refine Prod.ext rfl ?_
  show (setCarrier _ link _).withMesh ((world.mesh.holdRouter id).letGoRouter id) = _
  rw [Mesh.letGo_holdRouter held]
  exact world.setCarrier_within rfl link _

/-- One subscriber that does nothing on its own hears everything, and nothing else changes. -/
theorem dispatchAll_listening {registry : Nat} {entry : Subscription} {label : String}
    (subscribed : (world.mesh.registry registry).subscriptions = [entry])
    (present : world.subscribers[entry.subscriber]? = some ⟨label, [], false⟩)
    (events : List RouteEvent) : world.dispatchAll perform registry events =
      (events, { world with trace := world.trace ++ events.map (.notified label) }) := by
  induction events generalizing world with
  | nil => simp [dispatchAll]
  | cons event rest ih =>
    have heard : world.dispatch perform registry event = world.record (.notified label event) := by
      unfold dispatch announce
      rw [subscribed]
      simp only [List.foldl_cons, List.foldl_nil, notify, present]
    have later := ih (world.record (.notified label event)) subscribed present
    unfold dispatchAll
    rw [heard, later, subscribed]
    simp [record]

end World

end DaemonMesh
