import DaemonMesh.Proofs.RegistriesKept
import DaemonMesh.Proofs.Undisturbed

namespace DaemonMesh

namespace World

/-- What leaves a router, its endpoints and the handles on it alone. -/
def Spares (id : Nat) (world next : World) : Prop := Mesh.Undisturbed id world.mesh next.mesh

/-- The same subscribers in the same registries, under the same labels, and links that have no
further scripts to run. -/
structure SameAudience (world next : World) : Prop where
  subscribers : next.subscribers = world.subscribers
  registries : next.mesh.registries = world.mesh.registries
  routerLabels : next.labels.routers = world.labels.routers
  registryLabels : next.labels.registries = world.labels.registries
  subscriptionLabels : next.labels.subscriptions = world.labels.subscriptions
  carriers : ∀ carrier ∈ next.carriers, carrier ∈ world.carriers ∨ carrier.scripts = []

/-- What spares a router and ends in a calm world. -/
structure Passes (calm : World → Prop) (id : Nat) (world next : World) : Prop where
  quiet : calm next
  spares : Spares id world next

/-- A subscriber that stays subscribed, among subscribers and links that do not call back into the
router: from calm worlds on, whatever anybody does at an event or with a message leaves the router
alone. -/
structure Attentive (perform : Performer) (calm : World → Prop) (id registry : Nat)
    (entry : Subscription) : Prop where
  performs : Performs True perform
  orderly : Orderly perform
  listens : ∀ world, calm world → entry ∈ (world.mesh.registry registry).subscriptions
  hears : ∀ world other event, world.Sound True → calm world →
    Passes calm id world (world.notify perform other event).2
  hands : ∀ world link message, world.Sound True → calm world →
    Passes calm id world (world.push perform link message).2
  goesOn : ∀ world next, calm world → SameAudience world next → calm next

variable {perform : Performer} {calm : World → Prop} {id registry : Nat} {entry : Subscription}
  {world next : World} {router : Router} {label : String}

theorem sameAudience_self (world : World) : SameAudience world world :=
  ⟨rfl, rfl, rfl, rfl, rfl, fun _ member => Or.inl member⟩

theorem sameAudience_withMesh {mesh : Mesh} (registries : mesh.registries = world.mesh.registries) :
    SameAudience world (world.withMesh mesh) :=
  ⟨rfl, registries, rfl, rfl, rfl, fun _ member => Or.inl member⟩

theorem SameAudience.trans {later : World} (first : SameAudience world next)
    (second : SameAudience next later) : SameAudience world later where
  subscribers := second.subscribers.trans first.subscribers
  registries := second.registries.trans first.registries
  routerLabels := second.routerLabels.trans first.routerLabels
  registryLabels := second.registryLabels.trans first.registryLabels
  subscriptionLabels := second.subscriptionLabels.trans first.subscriptionLabels
  carriers carrier member :=
    (second.carriers carrier member).elim (first.carriers carrier) Or.inr

theorem spares_self (id : Nat) (world : World) : Spares id world world :=
  Mesh.undisturbed_self id world.mesh

/-- A new link is on no list of anyone, and the registries are not touched. -/
theorem spares_openLink (id : Nat) (world : World) (label name : String) (guid : Guid)
    (carrier : Carrier) : Spares id world (world.openLink label name guid carrier) := by
  have opened : Mesh.Undisturbed id (world.closeLabelled label).mesh
      (world.openLink label name guid carrier).mesh := Mesh.undisturbed_of_parts rfl rfl rfl
  rw [mesh_closeLabelled] at opened
  exact opened

theorem spares_openQueue (id : Nat) (world : World) (label name : String) (guid : Guid)
    (capacity : Nat) : Spares id world (world.openQueue label name guid capacity).2 := by
  unfold openQueue
  split
  · exact spares_self id world
  · split
    · exact spares_self id world
    · exact spares_openLink id world label name guid _

theorem spares_dropTable (id : Nat) (world : World) (label : String) :
    Spares id world (world.dropTable label) := by
  unfold dropTable
  split
  · exact spares_self id world
  · exact Mesh.undisturbed_dropTable id world.mesh _

/-- A table kept for a test belongs to no router. -/
theorem spares_nameTable (id : Nat) (world : World) (label : String) (table : RouteTable) :
    Spares id world (world.nameTable label table) :=
  (spares_dropTable id world label).trans (Mesh.undisturbed_of_parts rfl rfl rfl)

theorem spares_dropEndpoint (id : Nat) (world : World) (label : String) :
    Spares id world (world.dropEndpoint label) := by
  unfold dropEndpoint
  split
  · exact spares_self id world
  · exact (Mesh.undisturbed_self id world.mesh).letGoEndpoint _

/-- A handle that is let go may be the last one of an endpoint. If it is, the endpoint was
registered nowhere. -/
theorem spares_nameEndpoint (id : Nat) (world : World) (label : String) (target : Nat) :
    Spares id world (world.nameEndpoint label target) := by
  have held : Spares id world (world.withMesh (world.mesh.holdEndpoint target)) :=
    Mesh.undisturbed_of_parts rfl rfl rfl
  exact held.trans (spares_dropEndpoint id _ label)

theorem spares_keep (id : Nat) (world : World) (target : Nat) (keepAs : Option String) :
    Spares id world (world.keep target keepAs) := by
  cases keepAs with
  | none => exact spares_self id world
  | some label => exact spares_nameEndpoint id world label target

/-- What is done to a plain table changes that table and the counts of links. -/
theorem spares_performTable (id : Nat) (world : World) (label : String) (request : TableRequest) :
    Spares id world (world.performTable label request).2 := by
  have rest := spares_self id world
  cases request with
  | new direct =>
    cases direct with
    | none => exact spares_nameTable id world label _
    | some other => exact holds_withLink rest fun _ _ => spares_nameTable id world label _
  | drop => exact holds_withTable rest fun _ _ _ => spares_dropTable id world label
  | insert other =>
    exact holds_withTable rest fun _ _ _ => holds_withLink rest fun _ _ =>
      Mesh.undisturbed_of_parts rfl rfl rfl
  | bind session other =>
    refine holds_withTable rest fun _ _ _ => holds_withLink rest fun _ _ => ?_
    split
    · exact rest
    · next call =>
      rcases Mesh.bindTable_ok call with ⟨_, rfl⟩ | ⟨_, _, _, rfl⟩
      · exact rest
      · exact Mesh.undisturbed_of_parts rfl rfl rfl
  | unbind session =>
    refine holds_withTable rest fun _ _ _ => ?_
    split
    · exact rest
    · next call =>
      rcases Mesh.unbindTable_ok call with ⟨_, rfl⟩ | ⟨_, freed, _, _, rfl⟩
      · exact rest
      · refine Mesh.Undisturbed.releaseAll ?_ [freed]
        exact Mesh.undisturbed_of_parts rfl rfl rfl
  | remove other =>
    refine holds_withTable rest fun _ _ _ => holds_withLink rest fun _ _ => ?_
    refine Mesh.Undisturbed.releaseAll ?_ _
    exact Mesh.undisturbed_of_parts rfl rfl rfl
  | hasDirect other | sessions other =>
    exact holds_withLink rest fun _ _ => holds_withTable rest fun _ _ _ => rest
  | candidates | first | direct | reaches | routesWithout | hasNamed | links | info | select =>
    exact holds_withTable rest fun _ _ _ => rest

/-- The selector is asked first and sees nothing of the registry. Which link it picks does not
matter here. -/
theorem spares_bindBest {target : Nat} {endpoint : Endpoint} {session : SessionId}
    (binds : ∀ choice chosen mesh,
      world.mesh.bindChosen target endpoint session choice = .ok (chosen, mesh) →
        Mesh.Undisturbed id world.mesh mesh) (opts : Option SessionOpts) :
    Spares id world (world.bindBest target endpoint session opts).2 := by
  have same := mesh_witnessSelection world endpoint session opts
  unfold bindBest
  dsimp only
  split
  · rw [Spares, same]
    exact Mesh.undisturbed_self id world.mesh
  · next chosen mesh call =>
    rw [same] at call
    exact binds _ chosen mesh call

section Present

variable (present : world.mesh.router? id = some router)
include present

/-- A label that does not stand for the router can be given to another one. -/
theorem spares_dropRouter (different : world.labels.routers.find? label ≠ some id) :
    Spares id world (world.dropRouter label) := by
  unfold dropRouter
  split
  · exact spares_self id world
  · next other found =>
    have apart : id ≠ other := fun same => different (same ▸ found)
    exact (Mesh.undisturbed_self id world.mesh).letGoRouter_other apart present

/-- A label that is used again lets its old router go. It must not be the router that is watched. -/
theorem spares_openRouter (different : world.labels.routers.find? label ≠ some id)
    (setup : RouterSetup) : Spares id world (world.openRouter label setup).2 := by
  unfold openRouter
  split
  · exact spares_self id world
  · next registry prepared found =>
    obtain ⟨ready, labels⟩ :
        Spares id world prepared ∧ prepared.labels.routers = world.labels.routers := by
      unfold registryFor at found
      split at found
      · obtain ⟨rfl, rfl⟩ := Prod.mk.inj (Option.some.inj found)
        exact ⟨Mesh.undisturbed_of_parts rfl rfl rfl, rfl⟩
      · obtain ⟨id, _, same⟩ := Option.map_eq_some_iff.mp found
        obtain ⟨rfl, rfl⟩ := Prod.mk.inj same
        exact ⟨spares_self _ _, rfl⟩
    rw [← labels] at different
    have vacated := ready.trans (spares_dropRouter (ready.router.trans present) different)
    split
    · exact spares_self id world
    · -- The new router's number is one that nobody has yet.
      have below := Mesh.router?_lt (vacated.router.trans present)
      refine vacated.trans ⟨?_, fun _ _ _ => rfl, List.count_le_count_cons⟩
      exact congrArg Option.join (List.getElem?_append_left below)

end Present

/-- A calm world goes on, with whatever mesh, as long as nobody is subscribed anew or no more. -/
theorem Attentive.withMesh (attentive : Attentive perform calm id registry entry)
    (quiet : calm world) {mesh : Mesh} (registries : mesh.registries = world.mesh.registries) :
    calm (world.withMesh mesh) :=
  attentive.goesOn world _ quiet (sameAudience_withMesh registries)

/-- The audience of an event is in the registries, and queues are elsewhere. -/
theorem sameAudience_openQueue (world : World) (label name : String) (guid : Guid)
    (capacity : Nat) : SameAudience world (world.openQueue label name guid capacity).2 := by
  have self := sameAudience_self world
  have closed : SameAudience world (world.closeLabelled label) := by
    unfold closeLabelled
    split
    · exact self
    · split
      · refine ⟨rfl, rfl, rfl, rfl, rfl, fun carrier member => ?_⟩
        refine (List.mem_or_eq_of_mem_set member).imp_right ?_
        rintro rfl
        rfl
      · exact self
  unfold openQueue
  split
  · exact self
  · split
    · exact self
    · refine closed.trans ⟨rfl, rfl, rfl, rfl, rfl, fun carrier member => ?_⟩
      refine (List.mem_append.mp member).imp_right fun new => ?_
      rw [List.mem_singleton.mp new]
      rfl

/-- To keep a handle is to write it down under a label. -/
theorem sameAudience_keep (world : World) (target : Nat) (keepAs : Option String) :
    SameAudience world (world.keep target keepAs) := by
  have dropped (world : World) (label : String) :
      SameAudience world (world.dropEndpoint label) := by
    unfold dropEndpoint
    split
    · exact sameAudience_self world
    · next id _ =>
      have registries : (world.mesh.letGoEndpoint id).registries = world.mesh.registries := by
        obtain ⟨_, _, _, shape⟩ := Mesh.discardUnheld_shape _ id
        rw [Mesh.letGoEndpoint, shape]
      exact ⟨rfl, registries, rfl, rfl, rfl, fun _ member => Or.inl member⟩
  cases keepAs with
  | none => exact sameAudience_self world
  | some label =>
    have held : SameAudience world (world.withMesh (world.mesh.holdEndpoint target)) :=
      sameAudience_withMesh rfl
    have named := held.trans (dropped _ label)
    exact ⟨named.subscribers, named.registries, named.routerLabels, named.registryLabels,
      named.subscriptionLabels, named.carriers⟩

theorem Attentive.passes_openQueue (attentive : Attentive perform calm id registry entry)
    (quiet : calm world) (label name : String) (guid : Guid) (capacity : Nat) :
    Passes calm id world (world.openQueue label name guid capacity).2 :=
  ⟨attentive.goesOn world _ quiet (sameAudience_openQueue world label name guid capacity),
    spares_openQueue id world label name guid capacity⟩

theorem Attentive.passes_keep (attentive : Attentive perform calm id registry entry)
    (quiet : calm world) (target : Nat) (keepAs : Option String) :
    Passes calm id world (world.keep target keepAs) :=
  ⟨attentive.goesOn world _ quiet (sameAudience_keep world target keepAs),
    spares_keep id world target keepAs⟩

section Attentive

variable (attentive : Attentive perform calm id registry entry) (sound : world.Sound True)
  (quiet : calm world)
include attentive sound quiet

/-- The events reach the handlers one after the other, and each of them may call back. What one of
these calls does is passed by assumption. -/
theorem passes_dispatchAll (number : Nat) (events : List RouteEvent) :
    Passes calm id world (world.dispatchAll perform number events).2 := by
  have told := dispatchAll_follows (Spares id) (spares_self id)
    (fun _ _ _ first second => first.trans second)
    (fun world other event (holds : world.Sound True ∧ calm world) =>
      have heard := attentive.hears world other event holds.1 holds.2
      ⟨⟨holds.1.notify attentive.performs other event, heard.quiet⟩, heard.spares⟩)
    number events ⟨sound, quiet⟩
  exact ⟨told.1.2, told.2⟩

/-- The candidates are asked in turn, and each is a link that may run a script. -/
theorem passes_deliver (message : Message) (links : List Link) (asked : Nat) :
    Passes calm id world (deliver (push perform) message links asked world).2 := by
  have sent := @deliver_keeps World
    (fun next => next.Sound True ∧ Passes calm id world next) (push perform)
    (fun next link message holds =>
      have handed := attentive.hands next link message holds.1 holds.2.quiet
      ⟨holds.1.push attentive.performs link message, handed.quiet,
        holds.2.spares.trans handed.spares⟩)
    message links asked world ⟨sound, quiet, spares_self id world⟩
  exact sent.2

/-- A send asks the candidates of its session, or says at once that there is no route. -/
theorem passes_send (target : Nat) (endpoint : Endpoint) (message : Message)
    (session : SessionId) :
    Passes calm id world (world.send perform target endpoint message session).2 := by
  have held : Spares id world (world.withMesh (world.mesh.holdEndpoint target)) :=
    Mesh.undisturbed_of_parts rfl rfl rfl
  have sent := passes_deliver attentive (sound.withMesh (.holdEndpoint target))
    (attentive.withMesh quiet rfl) message (endpoint.routes.candidates session) 0
  have registries (mesh : Mesh) : (mesh.letGoEndpoint target).registries = mesh.registries := by
    obtain ⟨_, _, _, shape⟩ := Mesh.discardUnheld_shape _ target
    rw [Mesh.letGoEndpoint, shape]
  unfold World.send
  dsimp only
  split <;> exact ⟨attentive.withMesh sent.quiet (registries _),
    (held.trans sent.spares).letGoEndpoint target⟩

/-- A router is held while a message goes over it, so it is still there afterwards, and so is any
other one that was held before. -/
theorem passes_route (present : world.mesh.router? id = some router)
    (held : id ∈ world.mesh.routerHandles) (number : Nat) (through : Router) (name : String)
    (message : Message) :
    Passes calm id world (world.route perform number through name message).2 := by
  unfold World.route
  split
  · exact ⟨quiet, spares_self id world⟩
  · next target endpoint _ =>
    have sent := passes_send attentive (sound.withMesh (.holdRouter number))
      (attentive.withMesh quiet rfl) target endpoint message message.session
    exact ⟨attentive.withMesh sent.quiet (Mesh.registries_letGoRouter _ number),
      Mesh.Undisturbed.letGoRouter sent.spares present held⟩

/-- A delivery by hand goes down a list of labels in the same way. -/
theorem passes_performDelivery (links : List String) (message : Message) :
    Passes calm id world (world.performDelivery perform links message).2 := by
  unfold World.performDelivery
  split
  · exact ⟨quiet, spares_self id world⟩
  · next targets _ =>
    have sent := passes_deliver attentive sound quiet message targets 0
    split
    · next taken => rw [taken] at sent; exact sent
    · next refused => rw [refused] at sent; exact sent

/-- Requests to a link take messages from its receiver or count its references, and none of them
comes near a router. -/
theorem spares_performLink (label : String) (request : LinkRequest) :
    Spares id world (world.performLink perform label request).2 := by
  have rest := spares_self id world
  cases request with
  | openQueue name guid capacity => exact spares_openQueue id world label name guid _
  | acquire => exact holds_withLink rest fun _ _ => Mesh.undisturbed_of_parts rfl rfl rfl
  | release =>
    refine holds_withLink rest fun link _ => Mesh.Undisturbed.releaseAll ?_ [link]
    exact Mesh.undisturbed_self id world.mesh
  | push message =>
    refine holds_withLink rest fun link _ => ?_
    have pushed := (attentive.hands world link message sound quiet).spares
    split
    · next taken => rw [taken] at pushed; exact pushed
    · next refused => rw [refused] at pushed; exact pushed
  | receive | drain =>
    refine holds_withLink rest fun link _ => ?_
    rw [Spares, mesh_atReceiver]
    exact rest
  | close =>
    refine holds_withLink rest fun link _ => ?_
    rw [Spares, mesh_closeReceiver]
    exact rest
  | info => exact holds_withLink rest fun _ _ => rest
  | same other => exact holds_withLink rest fun _ _ => holds_withLink rest fun _ _ => rest

/-- Endpoints are changed through their handles only if the router has not registered them. -/
theorem spares_performEndpoint (label : String) {request : EndpointRequest}
    (allowed : request.Allowed (∀ target, world.labels.endpoints.find? label = some target →
      ∀ name, ¬world.mesh.Registers id name target)) :
    Spares id world (world.performEndpoint perform label request).2 := by
  have rest := spares_self id world
  cases request with
  | new name other selector =>
    refine holds_withLink rest fun link _ => ?_
    have added := Mesh.undisturbed_addEndpoint sound.reached.registered id
      (.reachedBy name link selector)
    exact added.trans (spares_nameEndpoint id (world.withMesh _) label _)
  | drop => exact holds_withEndpoint rest fun _ _ _ _ => spares_dropEndpoint id world label
  | push message =>
    exact holds_withEndpoint rest fun target endpoint _ _ =>
      (passes_send attentive sound quiet target endpoint message message.session).spares
  | pushTo message session =>
    exact holds_withEndpoint rest fun target endpoint _ _ =>
      (passes_send attentive sound quiet target endpoint message session).spares
  | addLink other =>
    refine holds_withEndpoint rest fun target endpoint named there => holds_withLink rest
      fun _ _ => holds_flagOutcome rest fun value mesh call => ?_
    obtain ⟨after, _, rfl⟩ := Mesh.addLink_ok call
    exact Mesh.undisturbed_setEndpoint (allowed target named) there after
  | removeLink other =>
    refine holds_withEndpoint rest fun target endpoint named there => holds_withLink rest
      fun link _ => Mesh.Undisturbed.releaseAll ?_ _
    exact Mesh.undisturbed_setEndpoint (allowed target named) there _
  | bind session other =>
    refine holds_withEndpoint rest fun target endpoint named there => holds_withLink rest
      fun _ _ => ?_
    split
    · exact rest
    · next call =>
      obtain ⟨after, _, rfl⟩ := Mesh.bind_ok call
      exact (Mesh.undisturbed_setEndpoint (allowed target named) there after).trans
        (Mesh.undisturbed_of_parts rfl rfl rfl)
  | bindBest session opts =>
    exact holds_withEndpoint rest fun target endpoint named there =>
      spares_bindBest (fun _ _ _ call =>
        Mesh.undisturbed_bindChosen (allowed target named) there call) opts
  | unbind session =>
    exact holds_withEndpoint rest fun target endpoint named there =>
      holds_flagOutcome rest fun _ _ call =>
        Mesh.undisturbed_unbind (allowed target named) there call
  | canUse other | sessions other =>
    exact holds_withLink rest fun _ _ => holds_withEndpoint rest fun _ _ _ _ => rest
  | resolve | reachWithout | hasAny | info => exact holds_withEndpoint rest fun _ _ _ _ => rest
  | same other =>
    exact holds_withEndpoint rest fun _ _ _ _ => holds_withEndpoint rest fun _ _ _ _ => rest

/-- Subscribers are kept by registries and not by routers. Only an event that is dispatched can
start any work, and that is passed by assumption. -/
theorem spares_performEvents (label : String) (request : EventRequest) :
    Spares id world (world.performEvents perform label request).2 := by
  have rest := spares_self id world
  cases request with
  | new => exact Mesh.undisturbed_of_parts rfl rfl rfl
  | unsubscribe subscription =>
    refine holds_withRegistry rest fun number _ => ?_
    split
    · exact rest
    · exact Mesh.undisturbed_of_parts rfl rfl rfl
  | count => exact holds_withRegistry rest fun _ _ => rest
  | dispatch event =>
    exact holds_withRegistry rest fun number _ =>
      (passes_dispatchAll attentive sound quiet number [event]).spares

section Held

variable (present : world.mesh.router? id = some router) (held : id ∈ world.mesh.routerHandles)
include present held

/-- What another router loses is its own loss. -/
theorem spares_loseLink {other : Nat} {losing : Router} (different : id ≠ other)
    (atOther : world.mesh.router? other = some losing) (link : Link) (reason : LossReason) :
    Spares id world (world.loseLink perform other losing link reason).2.2 := by
  have whole : losing.endpoints.values.Perm losing.endpoints.values := List.Perm.refl _
  have reached := sound.reached.next (.holdRouter other)
  have stillAt : (world.mesh.holdRouter other).router? other = some losing := atOther
  have lost := Mesh.undisturbed_loseLinkIn reached.registered stillAt different reached.accounted
    whole link
  have registries :=
    (Mesh.foldl_loseAt_touches other link losing.endpoints.values
      (.empty, world.mesh.holdRouter other)).1.registries
  have told := passes_dispatchAll attentive (sound.lost atOther whole link)
    (attentive.withMesh quiet registries) losing.registry
    (((world.mesh.holdRouter other).loseLinkIn losing.endpoints.values other link).1.events reason)
  exact Mesh.Undisturbed.letGoRouter (lost.trans told.spares) present held

/-- Requests to other routers. -/
theorem spares_performRouter (different : world.labels.routers.find? label ≠ some id)
    (request : RouterRequest) : Spares id world (world.performRouter perform label request).2 := by
  have rest := spares_self id world
  have apart {other : Nat} (named : world.labels.routers.find? label = some other) : id ≠ other :=
    fun same => different (same ▸ named)
  have registered := sound.reached.registered
  cases request with
  | new setup => exact spares_openRouter present different setup
  | openQueue other name guid =>
    exact holds_withRouter rest fun _ through _ _ => spares_openQueue id world other name guid _
  | add name other keepAs =>
    refine holds_withRouter rest fun other through named atOther => holds_withLink rest
      fun link _ => ?_
    have reached := Mesh.undisturbed_reach registered atOther (apart named) name link
    exact reached.trans (spares_keep id (world.withMesh _) _ keepAs)
  | get name keepAs =>
    refine holds_withRouter rest fun _ through _ _ => ?_
    split
    · exact rest
    · exact spares_keep id world _ keepAs
  | route name message =>
    exact holds_withRouter rest fun other through _ _ =>
      (passes_route attentive sound quiet present held other through name message).spares
  | bind name session opts =>
    refine holds_withRouter rest fun other through named atOther => ?_
    split
    · exact rest
    · next target endpoint found =>
      obtain ⟨listed, there⟩ := Mesh.lookup_eq_some.mp (lookup_of_lookupOrFail found)
      exact spares_bindBest (fun _ _ _ call => Mesh.undisturbed_bindChosen
        (registered.free atOther (apart named) listed) there call) opts
  | unbind name session =>
    refine holds_withRouter rest fun other through named atOther =>
      holds_flagOutcome rest fun value mesh call => ?_
    obtain ⟨⟨target, endpoint⟩, found, unbound⟩ := bind_eq_ok call
    obtain ⟨listed, there⟩ := Mesh.lookup_eq_some.mp (lookup_of_lookupOrFail found)
    exact Mesh.undisturbed_unbind (registered.free atOther (apart named) listed) there
      (mapError_eq_ok unbound)
  | lost other reason =>
    exact holds_withRouter rest fun other through named atOther => holds_withLink rest fun link _ =>
      spares_loseLink attentive sound quiet present held (apart named) atOther link reason
  | unreachable | info => exact holds_withRouter rest fun _ _ _ _ => rest
  | drop => exact holds_withRouter rest fun _ _ _ _ => spares_dropRouter present different

end Held

end Attentive

end World

/-- Steps of others: they ask nothing of this router, change none of the endpoints that it has
registered, and tell the subscribers of its registry nothing. -/
def Step.Bystands (world : World) (id registry : Nat) : Step → Prop
  | .endpoint label request => request.Allowed (∀ target,
      world.labels.endpoints.find? label = some target →
        ∀ name, ¬world.mesh.Registers id name target)
  | .events label (.dispatch _) => world.labels.registries.find? label ≠ some registry
  | .router label (.lost _ _) => world.labels.routers.find? label ≠ some id ∧
      ∀ other router, world.routerAt label = some (other, router) → router.registry ≠ registry
  | .router label _ => world.labels.routers.find? label ≠ some id
  | _ => True

namespace World

variable {perform : Performer} {calm : World → Prop} {id registry : Nat} {entry : Subscription}
  {world : World} {router : Router} {step : Step}

/-- Whatever others do, the router is spared. -/
theorem spares_performStep (attentive : Attentive perform calm id registry entry)
    (sound : world.Sound True) (quiet : calm world) (present : world.mesh.router? id = some router)
    (held : id ∈ world.mesh.routerHandles) (bystands : step.Bystands world id registry) :
    Spares id world (world.performStep perform step).2 := by
  have rest := spares_self id world
  cases step with
  | link label request => exact spares_performLink attentive sound quiet label request
  | scriptLink label name guid refusal cause scripts =>
    exact spares_openLink id world label name guid _
  | rescriptLink label refusal cause scripts =>
    refine holds_withLink rest fun link _ => ?_
    unfold rescript
    split <;> exact rest
  | deliver links message =>
    exact (passes_performDelivery attentive sound quiet links message).spares
  | table label request => exact spares_performTable id world label request
  | endpoint label request => exact spares_performEndpoint attentive sound quiet label bystands
  | subscribe registry label scripts crashes =>
    exact holds_withRegistry rest fun number _ => Mesh.undisturbed_of_parts rfl rfl rfl
  | events label request => exact spares_performEvents attentive sound quiet label request
  | router label request =>
    refine spares_performRouter attentive sound quiet present held ?_ request
    cases request with
    | lost => exact bystands.1
    | _ => exact bystands
  | malformed => exact rest

end World

end DaemonMesh
