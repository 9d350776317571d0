import DaemonMesh.Proofs.Changes
import DaemonMesh.Scenario.Run

namespace DaemonMesh

/-- References are the routing core's business. -/
def LinkRequest.Allowed : LinkRequest → Prop
  | .acquire | .release => False
  | _ => True

/-- Endpoints are changed behind the routers only if `handles` holds. -/
def EndpointRequest.Allowed (handles : Prop) : EndpointRequest → Prop
  | .addLink _ | .removeLink _ | .bind _ _ | .bindBest _ _ | .unbind _ => handles
  | _ => True

mutual

/-- Whether a step, with all scripts that it brings along, leaves references to the routing core
and, unless `handles` holds, endpoints to the routers. -/
def Step.Allowed (handles : Prop) : Step → Prop
  | .link _ request => request.Allowed
  | .scriptLink _ _ _ _ _ scripts => ScriptsAllowed handles scripts
  | .rescriptLink _ _ _ scripts => GivenScriptsAllowed handles scripts
  | .endpoint _ request => request.Allowed handles
  | .subscribe _ _ scripts _ => ScriptsAllowed handles scripts
  | _ => True

def ScriptAllowed (handles : Prop) : List Step → Prop
  | [] => True
  | step :: rest => step.Allowed handles ∧ ScriptAllowed handles rest

def ScriptsAllowed (handles : Prop) : List (List Step) → Prop
  | [] => True
  | script :: rest => ScriptAllowed handles script ∧ ScriptsAllowed handles rest

def GivenScriptsAllowed (handles : Prop) : Option (List (List Step)) → Prop
  | none => True
  | some scripts => ScriptsAllowed handles scripts

end

/-- What handing over to a single link keeps up, trying several of them keeps up. -/
theorem deliver_keeps {World : Type} {holds : World → Prop}
    {push : World → Link → Message → Option LinkError × World}
    (keeps : ∀ world link message, holds world → holds (push world link message).2)
    (message : Message) (links : List Link) (asked : Nat) (world : World) (before : holds world) :
    holds (deliver push message links asked world).2 := by
  induction links generalizing asked world with
  | nil => exact before
  | cons link rest ih =>
    have offered := keeps world link message before
    unfold deliver
    split
    · next taken => rw [taken] at offered; exact offered
    · next refused => rw [refused] at offered; exact ih _ _ offered

namespace World

/-- What holds whenever a subscriber is called, and what each call leads on to, carries over to all
events told one after the other. -/
theorem dispatchAll_follows {perform : Performer} {holds : World → Prop}
    (follows : World → World → Prop) (refl : ∀ world, follows world world)
    (trans : ∀ first second third, follows first second → follows second third →
      follows first third)
    (hears : ∀ world entry event, holds world → holds (world.notify perform entry event).2 ∧
      follows world (world.notify perform entry event).2)
    (registry : Nat) (events : List RouteEvent) {world : World} (before : holds world) :
    holds (world.dispatchAll perform registry events).2 ∧
      follows world (world.dispatchAll perform registry events).2 := by
  have dispatched (event : RouteEvent) (snapshot : List Subscription) (world : World)
      (before : holds world) : holds (announce (notify perform) event snapshot world) ∧
        follows world (announce (notify perform) event snapshot world) := by
    induction snapshot generalizing world with
    | nil => exact ⟨before, refl world⟩
    | cons entry rest ih =>
      obtain ⟨still, first⟩ := hears world entry event before
      obtain ⟨after, later⟩ := ih _ still
      exact ⟨after, trans _ _ _ first later⟩
  induction events generalizing world with
  | nil => exact ⟨before, refl world⟩
  | cons event rest ih =>
    obtain ⟨still, first⟩ :=
      dispatched event (world.mesh.registry registry).subscriptions world before
    obtain ⟨after, later⟩ := ih still
    exact ⟨after, trans _ _ _ first later⟩

/-- With somebody subscribed at every moment, every event is heard. -/
theorem dispatchAll_heard {perform : Performer} {holds : World → Prop} {registry : Nat}
    (hears : ∀ world entry event, holds world → holds (world.notify perform entry event).2)
    (somebody : ∀ world, holds world → (world.mesh.registry registry).subscriptions ≠ [])
    (events : List RouteEvent) {world : World} (before : holds world) :
    (world.dispatchAll perform registry events).1 = events := by
  induction events generalizing world with
  | nil => rfl
  | cons event rest ih =>
    have still : holds (dispatch perform registry world event) :=
      (dispatchAll_follows (fun _ _ => True) (fun _ => trivial) (fun _ _ _ _ _ => trivial)
        (fun world entry event holds => ⟨hears world entry event holds, trivial⟩) registry [event]
        before).1
    have present : (world.mesh.registry registry).subscriptions.isEmpty = false :=
      List.isEmpty_eq_false_iff.mpr (somebody world before)
    unfold dispatchAll
    rw [present]
    exact congrArg (List.cons event) (ih still)

/-- What holds of a world as long as only allowed steps are carried out: its routing state is led
along moves, its labelled links were opened, and no script that waits is up to anything else. -/
structure Sound (handles : Prop) (world : World) : Prop where
  reached : Mesh.Reach handles world.mesh
  labelled : ∀ label link, world.labels.links.find? label = some link → link ∈ world.mesh.links
  carried : ∀ carrier ∈ world.carriers, ScriptsAllowed handles carrier.scripts
  subscribed : ∀ subscriber ∈ world.subscribers, ScriptsAllowed handles subscriber.scripts

variable {handles : Prop} {world : World}

theorem sound_empty : empty.Sound handles where
  reached := .start
  labelled := by simp [empty, Labels.empty]
  carried := by simp [empty]
  subscribed := by simp [empty]

namespace Sound

variable (sound : world.Sound handles)
include sound

/-- Changes never take a link away, so labels stay good. -/
theorem goOn {mesh : Mesh} (reached : Mesh.Reach handles mesh)
    (changes : Mesh.Changes True world.mesh mesh) : (world.withMesh mesh).Sound handles where
  reached := reached
  labelled label link found := changes.links link (sound.labelled label link found)
  carried := sound.carried
  subscribed := sound.subscribed

/-- A world goes on soundly with a mesh that a move leads to. -/
theorem withMesh {mesh : Mesh} (move : Mesh.Move handles world.mesh mesh) :
    (world.withMesh mesh).Sound handles :=
  sound.goOn (sound.reached.next move) move.changes

theorem record (entry : TraceEntry) : (world.record entry).Sound handles :=
  ⟨sound.reached, sound.labelled, sound.carried, sound.subscribed⟩

/-- What stands behind a link may change if it brings no scripts that are not allowed. -/
theorem setCarrier (link : Link) (carrier : Carrier)
    (allowed : ScriptsAllowed handles carrier.scripts) :
    (world.setCarrier link carrier).Sound handles where
  reached := sound.reached
  labelled := sound.labelled
  carried other member := by
    rcases List.mem_or_eq_of_mem_set member with old | new
    · exact sound.carried other old
    · rw [new]
      exact allowed
  subscribed := sound.subscribed

/-- Losing a receiving end is no routing. -/
theorem closeLabelled (label : String) : (world.closeLabelled label).Sound handles := by
  unfold World.closeLabelled
  split
  · exact sound
  · split
    · exact sound.setCarrier _ _ trivial
    · exact sound

/-- The new link is opened before its label stands for it, and the label of any other link stays
with that one. -/
theorem openLink (label name : String) (guid : Guid) {carrier : Carrier}
    (allowed : ScriptsAllowed handles carrier.scripts) :
    (world.openLink label name guid carrier).Sound handles := by
  have closed := sound.closeLabelled label
  have moved := closed.withMesh (.openLink name guid)
  refine ⟨moved.reached, ?_, ?_, moved.subscribed⟩
  · intro other link found
    by_cases same : other = label
    · subst same
      rw [World.openLink, OrderedMap.find?_insert_self] at found
      rw [← Option.some.inj found]
      exact List.mem_append_right _ (List.mem_singleton_self _)
    · rw [World.openLink, OrderedMap.find?_insert_ne _ _ same] at found
      exact moved.labelled other link found
  · intro other member
    rcases List.mem_append.mp member with old | new
    · exact closed.carried other old
    · rw [List.mem_singleton.mp new]
      exact allowed

/-- Only the labels of links matter: they have to stand for opened ones. -/
theorem relabel {labels : Labels} (links : labels.links = world.labels.links) :
    ({ world with labels } : World).Sound handles := by
  refine ⟨sound.reached, ?_, sound.carried, sound.subscribed⟩
  intro label link found
  simp only [links] at found
  exact sound.labelled label link found

theorem dropTable (label : String) : (world.dropTable label).Sound handles := by
  unfold World.dropTable
  split
  · exact sound
  · next id _ => exact (sound.withMesh (.dropTable id)).relabel rfl

/-- The old table of the label is dropped first. Dropping closes no link, so the new table may be
built over one. -/
theorem nameTable (label : String) {table : RouteTable}
    (fresh : table = .empty ∨ ∃ link ∈ world.mesh.links, table = .withDirect link) :
    (world.nameTable label table).Sound handles := by
  have dropped := sound.dropTable label
  have links : ∀ link ∈ world.mesh.links, link ∈ (world.dropTable label).mesh.links := by
    unfold World.dropTable
    split
    · exact fun link opened => opened
    · next id _ => exact Mesh.Changes.links (Mesh.changes_dropTable world.mesh id :
        Mesh.Changes True _ _)
  rcases fresh with rfl | ⟨link, opened, rfl⟩
  · exact (dropped.withMesh .newTable).relabel rfl
  · exact (dropped.withMesh (.seedTable (links link opened))).relabel rfl

theorem dropEndpoint (label : String) : (world.dropEndpoint label).Sound handles := by
  unfold World.dropEndpoint
  split
  · exact sound
  · next id _ => exact (sound.withMesh (.letGoEndpoint id)).relabel rfl

theorem nameEndpoint (label : String) (id : Nat) : (world.nameEndpoint label id).Sound handles :=
  ((sound.withMesh (.holdEndpoint id)).dropEndpoint label).relabel rfl

theorem keep (id : Nat) (label : Option String) : (world.keep id label).Sound handles := by
  cases label with
  | none => exact sound
  | some label => exact sound.nameEndpoint label id

theorem dropRouter (label : String) : (world.dropRouter label).Sound handles := by
  unfold World.dropRouter
  split
  · exact sound
  · next id _ => exact (sound.withMesh (.letGoRouter id)).relabel rfl

/-- A router is made and held at once, in two moves. -/
theorem nameRouter (label : String) (selector : Selector) (registry : Nat) (config : RouterConfig) :
    (world.nameRouter label ⟨.empty, selector, registry, config⟩).Sound handles := by
  have dropped := sound.dropRouter label
  have make : Mesh.Move handles (world.dropRouter label).mesh _ :=
    .newRouter selector registry config
  have hold : Mesh.Move handles _ _ := @Mesh.Move.holdRouter _
    ((world.dropRouter label).mesh.addRouter ⟨.empty, selector, registry, config⟩).2
    (world.dropRouter label).mesh.routers.length
  have opened := dropped.goOn ((dropped.reached.next make).next hold)
    (make.changes.trans hold.changes)
  exact opened.relabel rfl

theorem nameRegistry (label : String) (id : Nat) : (world.nameRegistry label id).Sound handles :=
  sound.relabel rfl

end Sound

/-- A performer that keeps worlds sound, as long as it is given allowed steps. -/
def Performs (handles : Prop) (perform : Performer) : Prop :=
  ∀ world step, world.Sound handles → step.Allowed handles → (perform world step).2.Sound handles

section Traffic

variable {perform : Performer} (performs : Performs handles perform)
include performs

/-- A script that waits is allowed step by step, and each step leaves a sound world to the next. -/
theorem Sound.runScript (witness : Outcome → TraceEntry) {script : List Step}
    (allowed : ScriptAllowed handles script) (sound : world.Sound handles) :
    (world.runScript perform witness script).Sound handles := by
  induction script generalizing world with
  | nil => exact sound
  | cons step rest ih => exact ih allowed.2 ((performs world step sound allowed.1).record _)

/-- A scripted link takes the script that it runs from those that it has, and the rest stays with
it. -/
theorem Sound.push (sound : world.Sound handles) (link : Link) (message : Message) :
    (world.push perform link message).2.Sound handles := by
  unfold World.push
  split
  · exact sound
  · split
    · exact sound
    · exact sound.setCarrier link _ trivial
  · next plan found =>
    have waiting := sound.carried _ (List.mem_of_getElem? found)
    have recorded := sound.record (.pushed plan.label message
      (plan.refuse? link.name message).isNone)
    dsimp only
    split
    · exact recorded
    · next script scripts atPlan =>
      rw [Carrier.scripts, atPlan] at waiting
      have begun := recorded.setCarrier link (.scripted { plan with scripts }) waiting.2
      exact begun.runScript performs _ waiting.1

/-- Holding the endpoint and letting it go are moves of their own around the delivery. -/
theorem Sound.send (sound : world.Sound handles) (id : Nat) (endpoint : Endpoint)
    (message : Message) (session : SessionId) :
    (world.send perform id endpoint message session).2.Sound handles := by
  have held := sound.withMesh (.holdEndpoint id)
  have pushes (world : World) (link : Link) (message : Message) (sound : world.Sound handles) :
      (world.push perform link message).2.Sound handles := sound.push performs link message
  have sent := deliver_keeps pushes message (endpoint.routes.candidates session) 0 _ held
  have done := sent.withMesh (.letGoEndpoint id)
  unfold World.send
  dsimp only
  split <;> exact done

/-- A subscriber uses up the script that it runs, so what it has left was allowed before. -/
theorem Sound.notify (sound : world.Sound handles) (entry : Subscription) (event : RouteEvent) :
    (world.notify perform entry event).2.Sound handles := by
  unfold World.notify
  split
  · exact sound
  · next subscriber found =>
    have waiting := sound.subscribed _ (List.mem_of_getElem? found)
    have recorded := sound.record (.notified subscriber.label event)
    dsimp only
    split
    · exact recorded
    · next script scripts atSubscriber =>
      rw [atSubscriber] at waiting
      refine Sound.runScript performs _ waiting.1 ?_
      refine ⟨recorded.reached, recorded.labelled, recorded.carried, fun other member => ?_⟩
      rcases List.mem_or_eq_of_mem_set member with old | new
      · exact sound.subscribed other old
      · rw [new]
        exact waiting.2

theorem Sound.dispatchAll (sound : world.Sound handles) (registry : Nat)
    (events : List RouteEvent) :
    (world.dispatchAll perform registry events).2.Sound handles :=
  (dispatchAll_follows (fun _ _ => True) (fun _ => trivial) (fun _ _ _ _ _ => trivial)
    (fun _ entry event sound => ⟨sound.notify performs entry event, trivial⟩) registry events
    sound).1

omit performs in
/-- The world as a loss leaves it, before anybody is told. -/
theorem Sound.lost (sound : world.Sound handles) {id : Nat} {router : Router} {order : List Nat}
    (atId : world.mesh.router? id = some router) (visits : order.Perm router.endpoints.values)
    (link : Link) :
    (world.withMesh ((world.mesh.holdRouter id).loseLinkIn order id link).2).Sound handles := by
  have held := sound.reached.next (.holdRouter id)
  have stillAt : (world.mesh.holdRouter id).router? id = some router := atId
  exact sound.goOn (held.next (.loseLink stillAt visits link))
    ((Relation.ReflTransGen.single (Mesh.Change.rearrange _ _ _)).trans
      (Mesh.changes_loseLinkIn trivial (world.mesh.holdRouter id) order id link))

omit performs in
/-- A call that reports a loss ends in a sound world if what is told of the loss keeps worlds so. -/
theorem Sound.loseLinkBy {Told : Type} {tell : Nat → List RouteEvent → World → Told × World}
    (sound : world.Sound handles) {id : Nat} {router : Router} {order : List Nat}
    (tells : ∀ registry events lost, Sound handles lost →
      Sound handles (tell registry events lost).2)
    (atId : world.mesh.router? id = some router) (visits : order.Perm router.endpoints.values)
    (link : Link) (reason : LossReason) :
    (world.loseLinkBy tell order id router link reason).2.2.2.Sound handles := by
  have told := tells router.registry
    (((world.mesh.holdRouter id).loseLinkIn order id link).1.events reason) _
    (sound.lost atId visits link)
  exact told.withMesh (.letGoRouter id)

/-- Endpoints are visited by ascending name, which is one of the orders allowed. -/
theorem Sound.loseLink (sound : world.Sound handles) {id : Nat} {router : Router}
    (atId : world.mesh.router? id = some router) (link : Link) (reason : LossReason) :
    (world.loseLink perform id router link reason).2.2.Sound handles :=
  sound.loseLinkBy (fun registry events _ lost => lost.dispatchAll performs registry events)
    atId (List.Perm.refl _) link reason

/-- The router is held while the message is on its way, so whatever scripts do meanwhile, it is
there to be let go. -/
theorem Sound.route (sound : world.Sound handles) (id : Nat) (router : Router) (name : String)
    (message : Message) : (world.route perform id router name message).2.Sound handles := by
  unfold World.route
  split
  · exact sound
  · next target endpoint _ =>
    have held := sound.withMesh (.holdRouter id)
    exact (held.send performs target endpoint message message.session).withMesh (.letGoRouter id)

end Traffic

end World

end DaemonMesh
