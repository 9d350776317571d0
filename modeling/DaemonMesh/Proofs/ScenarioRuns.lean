import DaemonMesh.Proofs.SoundWorlds

namespace DaemonMesh

/-- A look-up that does not fail has found the endpoint. -/
theorem lookup_of_lookupOrFail {mesh : Mesh} {router : Router} {name : String}
    {found : Nat × Endpoint}
    (success : mesh.lookupOrFail router name = .ok found) :
      mesh.lookup router name = some found := by
  unfold Mesh.lookupOrFail at success
  split at success
  · cases success
  · next present => rw [present, Except.ok.inj success]

/-- Renaming failures does not touch success. -/
theorem mapError_eq_ok {ε δ α : Type} {change : ε → δ} {result : Except ε α} {value : α}
    (success : result.mapError change = .ok value) : result = .ok value := by
  cases result with
  | error failure => cases success
  | ok other => exact congrArg Except.ok (Except.ok.inj success)

namespace World

variable {handles : Prop} {world : World}

section Labels

variable {label : String} {id : Nat} {router : Router}

/-- A label stands for a router if it leads to a number at which a router still is. -/
@[simp] theorem routerAt_eq_some : world.routerAt label = some (id, router) ↔
    world.labels.routers.find? label = some id ∧ world.mesh.router? id = some router := by
  simp [routerAt, Option.bind_eq_some_iff]

/-- The same for endpoints, which may have gone while a label still names them. -/
@[simp]
theorem endpointAt_eq_some {endpoint : Endpoint} : world.endpointAt label = some (id, endpoint) ↔
    world.labels.endpoints.find? label = some id ∧ world.mesh.endpoint? id = some endpoint := by
  simp [endpointAt, Option.bind_eq_some_iff]

/-- And for tables. -/
@[simp] theorem tableAt_eq_some {table : RouteTable} : world.tableAt label = some (id, table) ↔
    world.labels.tables.find? label = some id ∧ world.mesh.table? id = some table := by
  simp [tableAt, Option.bind_eq_some_iff]

/-- A label that stands for a live router leads on to it. -/
theorem withRouter_eq {go : Nat → Router → Outcome × World}
    (present : world.routerAt label = some (id, router)) :
    world.withRouter label go = go id router := by
  unfold withRouter
  rw [present]

end Labels

section Requests

variable {label : String}

/-- What holds before a request, and after all that goes on with the link named, holds after it. -/
theorem holds_withLink {holds : World → Prop} {go : Link → Outcome × World} (before : holds world)
    (goes : ∀ link, world.labels.links.find? label = some link → holds (go link).2) :
    holds (world.withLink label go).2 := by
  unfold World.withLink
  split
  · exact before
  · next link found => exact goes link found

/-- A label that stands for no table leaves everything as it is, which is why nothing is asked of
that case. -/
theorem holds_withTable {holds : World → Prop} {go : Nat → RouteTable → Outcome × World}
    (before : holds world)
    (goes : ∀ id table, world.mesh.table? id = some table → holds (go id table).2) :
    holds (world.withTable label go).2 := by
  unfold World.withTable
  split
  · exact before
  · next id table found => exact goes id table (tableAt_eq_some.mp found).2

/-- For endpoints the label is handed on as well: some requests are allowed only under certain
labels. -/
theorem holds_withEndpoint {holds : World → Prop} {go : Nat → Endpoint → Outcome × World}
    (before : holds world)
    (goes : ∀ id endpoint, world.labels.endpoints.find? label = some id →
      world.mesh.endpoint? id = some endpoint → holds (go id endpoint).2) :
    holds (world.withEndpoint label go).2 := by
  unfold World.withEndpoint
  split
  · exact before
  · next id endpoint found =>
    obtain ⟨named, atId⟩ := endpointAt_eq_some.mp found
    exact goes id endpoint named atId

/-- Likewise for routers, where the label tells one router from the others. -/
theorem holds_withRouter {holds : World → Prop} {go : Nat → Router → Outcome × World}
    (before : holds world)
    (goes : ∀ id router, world.labels.routers.find? label = some id →
      world.mesh.router? id = some router → holds (go id router).2) :
    holds (world.withRouter label go).2 := by
  unfold World.withRouter
  split
  · exact before
  · next id router found =>
    obtain ⟨named, atId⟩ := routerAt_eq_some.mp found
    exact goes id router named atId

/-- Registries never go, so the label is all there is to know. -/
theorem holds_withRegistry {holds : World → Prop} {go : Nat → Outcome × World}
    (before : holds world)
    (goes : ∀ id, world.labels.registries.find? label = some id → holds (go id).2) :
    holds (world.withRegistry label go).2 := by
  unfold World.withRegistry
  split
  · exact before
  · next id found => exact goes id found

/-- A call that says yes or no goes on with a new mesh only if it succeeds. -/
theorem holds_flagOutcome {holds : World → Prop} {result : Except Failure (Bool × Mesh)}
    (before : holds world)
    (goes : ∀ value mesh, result = .ok (value, mesh) → holds (world.withMesh mesh)) :
    holds (world.flagOutcome result).2 := by
  unfold World.flagOutcome
  split
  · next value mesh => exact goes value mesh rfl
  · exact before

/-- In a sound world a labelled link was opened, and this is what most requests need of it. -/
theorem sound_withLink {go : Link → Outcome × World} (sound : world.Sound handles)
    (goes : ∀ link ∈ world.mesh.links, (go link).2.Sound handles) :
    (world.withLink label go).2.Sound handles :=
  holds_withLink sound fun link found => goes link (sound.labelled label link found)

theorem sound_withRouter {go : Nat → Router → Outcome × World} (sound : world.Sound handles)
    (goes : ∀ id router, world.mesh.router? id = some router → (go id router).2.Sound handles) :
    (world.withRouter label go).2.Sound handles :=
  holds_withRouter sound fun id router _ => goes id router

theorem sound_flagOutcome {result : Except Failure (Bool × Mesh)} (sound : world.Sound handles)
    (moves : ∀ value mesh, result = .ok (value, mesh) → Mesh.Move handles world.mesh mesh) :
    (world.flagOutcome result).2.Sound handles :=
  holds_flagOutcome sound fun value mesh call => sound.withMesh (moves value mesh call)

theorem sound_askTable (sound : world.Sound handles) (ask : RouteTable → Answer) :
    (world.askTable label ask).2.Sound handles :=
  holds_withTable sound fun _ _ _ => sound

theorem sound_askEndpoint (sound : world.Sound handles) (ask : Endpoint → Answer) :
    (world.askEndpoint label ask).2.Sound handles :=
  holds_withEndpoint sound fun _ _ _ _ => sound

/-- Tables of their own may hold any opened link; binding and unbinding them moves the counts along.
-/
theorem sound_performTable (sound : world.Sound handles) (request : TableRequest) :
    (world.performTable label request).2.Sound handles := by
  cases request with
  | new direct =>
    cases direct with
    | none => exact sound.nameTable label (Or.inl rfl)
    | some other =>
      exact sound_withLink sound fun link opened =>
        sound.nameTable label (Or.inr ⟨link, opened, rfl⟩)
  | drop => exact holds_withTable sound fun _ _ _ => sound.dropTable label
  | insert other =>
    exact holds_withTable sound fun _ _ atId => sound_withLink sound fun _ opened =>
      sound.withMesh (.insertDirect atId opened)
  | bind session other =>
    refine holds_withTable sound fun _ _ atId => sound_withLink sound fun _ _ => ?_
    split
    · exact sound
    · next call => exact sound.withMesh (.bindTable atId call)
  | unbind session =>
    refine holds_withTable sound fun _ _ atId => ?_
    split
    · exact sound
    · next call => exact sound.withMesh (.unbindTable atId call)
  | remove other =>
    exact holds_withTable sound fun _ _ atId => sound_withLink sound fun link _ =>
      sound.withMesh (.removeFromTable atId link)
  | hasDirect other | sessions other => exact sound_withLink sound fun _ _ => sound_askTable sound _
  | candidates | first | direct | reaches | routesWithout | hasNamed | links | info | select =>
    exact sound_askTable sound _

/-- Asking a selector is no routing. -/
@[simp] theorem mesh_witnessSelection (world : World) (endpoint : Endpoint) (session : SessionId)
    (opts : Option SessionOpts) :
    (world.witnessSelection endpoint session opts).mesh = world.mesh := by
  unfold World.witnessSelection
  split
  · rfl
  · split <;> rfl

/-- The move is made on the mesh from before the selector was asked, which is the same one. -/
theorem sound_bindBest (sound : world.Sound handles) {id : Nat} {endpoint : Endpoint}
    {session : SessionId}
    (moves : ∀ choice chosen mesh,
      world.mesh.bindChosen id endpoint session choice = .ok (chosen, mesh) →
        Mesh.Move handles world.mesh mesh) (opts : Option SessionOpts) :
    (world.bindBest id endpoint session opts).2.Sound handles := by
  have same := mesh_witnessSelection world endpoint session opts
  have witnessed : (world.witnessSelection endpoint session opts).Sound handles := by
    unfold World.witnessSelection
    split
    · exact sound
    · split
      · exact sound
      · exact sound.record _
  unfold World.bindBest
  dsimp only
  split
  · exact witnessed
  · next chosen mesh call =>
    rw [same] at call
    refine witnessed.withMesh ?_
    rw [same]
    exact moves _ chosen mesh call

/-- A new subscriber brings its scripts along, and these have to be allowed. -/
theorem sound_subscribe (sound : world.Sound handles) (registry : Nat) {subscriber : Subscriber}
    (allowed : ScriptsAllowed handles subscriber.scripts) :
    (world.subscribe registry subscriber).2.Sound handles := by
  have entered := sound.withMesh (.setRegistry registry
    ((world.mesh.registry registry).subscribe world.subscribers.length).2)
  refine ⟨entered.reached, entered.labelled, entered.carried, fun other member => ?_⟩
  rcases List.mem_append.mp member with old | new
  · exact sound.subscribed other old
  · rw [List.mem_singleton.mp new]
    exact allowed

/-- Every router starts without endpoints, with a registry that was there already or has just been
made. -/
theorem sound_openRouter (sound : world.Sound handles) (setup : RouterSetup) :
    (world.openRouter label setup).2.Sound handles := by
  unfold World.openRouter
  split
  · exact sound
  · next registry prepared found =>
    have ready : prepared.Sound handles := by
      unfold World.registryFor at found
      split at found
      · obtain ⟨rfl, rfl⟩ := Prod.mk.inj (Option.some.inj found)
        exact sound.withMesh .newRegistry
      · obtain ⟨id, _, same⟩ := Option.map_eq_some_iff.mp found
        obtain ⟨rfl, rfl⟩ := Prod.mk.inj same
        exact sound
    split
    · exact sound
    · have named := ready.nameRouter label setup.selector registry setup.config
      exact named.nameRegistry label registry

/-- Queues run no scripts, so a new one needs no allowance. -/
theorem sound_openQueue (sound : world.Sound handles) (name : String) (guid : Guid)
    (capacity : Nat) :
    (world.openQueue label name guid capacity).2.Sound handles := by
  unfold World.openQueue
  split
  · exact sound
  · split
    · exact sound
    · exact sound.openLink label name guid trivial

theorem sound_atReceiver (sound : world.Sound handles) (link : Link) (go : Queue → Answer × Queue) :
    (world.atReceiver link go).2.Sound handles := by
  unfold World.atReceiver
  split
  · split
    · exact sound.setCarrier link _ trivial
    · exact sound
  · exact sound

theorem sound_closeReceiver (sound : world.Sound handles) (link : Link) :
    (world.closeReceiver link).2.Sound handles := by
  unfold World.closeReceiver
  split
  · exact sound.setCarrier link _ trivial
  · exact sound

/-- New scripts have to be allowed; the old ones were. -/
theorem sound_rescript (sound : world.Sound handles) (link : Link) (refusal : Option Refusal)
    (cause : Option RefusalCause) {scripts : Option (List (List Step))}
    (allowed : GivenScriptsAllowed handles scripts) :
    (world.rescript link refusal cause scripts).2.Sound handles := by
  unfold World.rescript
  split
  · next plan found =>
    refine sound.setCarrier link _ ?_
    cases scripts with
    | none => exact sound.carried (.scripted plan) (List.mem_of_getElem? found)
    | some scripts => exact allowed
  · exact sound

variable {perform : Performer} (performs : Performs handles perform)
include performs

/-- Acquiring and releasing by hand are not allowed, since no count could then be told from the
bindings. -/
theorem sound_performLink (sound : world.Sound handles) {request : LinkRequest}
    (allowed : request.Allowed) : (world.performLink perform label request).2.Sound handles := by
  cases request with
  | openQueue name guid capacity => exact sound_openQueue sound name guid capacity.toNat
  | acquire | release => exact allowed.elim
  | push message =>
    refine sound_withLink sound fun link _ => ?_
    have pushed := sound.push performs link message
    split
    · next taken => rw [taken] at pushed; exact pushed
    · next refused => rw [refused] at pushed; exact pushed
  | receive | drain => exact sound_withLink sound fun link _ => sound_atReceiver sound link _
  | close => exact sound_withLink sound fun link _ => sound_closeReceiver sound link
  | info => exact sound_withLink sound fun _ _ => sound
  | same other => exact sound_withLink sound fun _ _ => sound_withLink sound fun _ _ => sound

/-- A delivery over given links is no more than handing the message to one after the other. -/
theorem sound_performDelivery (sound : world.Sound handles) (links : List String)
    (message : Message) : (world.performDelivery perform links message).2.Sound handles := by
  have pushes (world : World) (link : Link) (message : Message) (sound : world.Sound handles) :
      (world.push perform link message).2.Sound handles := sound.push performs link message
  unfold World.performDelivery
  split
  · exact sound
  · next targets _ =>
    have sent := deliver_keeps pushes message targets 0 world sound
    split
    · next taken => rw [taken] at sent; exact sent
    · next refused => rw [refused] at sent; exact sent

/-- An endpoint is changed behind its router only if that is allowed at all. Each case names the
move that the request makes. -/
theorem sound_performEndpoint (sound : world.Sound handles) {request : EndpointRequest}
    (allowed : request.Allowed handles) :
    (world.performEndpoint perform label request).2.Sound handles := by
  cases request with
  | new name other selector =>
    exact sound_withLink sound fun link opened =>
      (sound.withMesh (.newEndpoint opened name selector)).nameEndpoint label _
  | drop => exact holds_withEndpoint sound fun _ _ _ _ => sound.dropEndpoint label
  | push message =>
    exact holds_withEndpoint sound fun id endpoint _ _ =>
      sound.send performs id endpoint message message.session
  | pushTo message session =>
    exact holds_withEndpoint sound fun id endpoint _ _ =>
      sound.send performs id endpoint message session
  | addLink other =>
    exact holds_withEndpoint sound fun _ _ _ atId => sound_withLink sound fun _ opened =>
      sound_flagOutcome sound fun _ _ call => .addLink allowed atId opened call
  | removeLink other =>
    refine holds_withEndpoint sound fun _ _ _ atId => sound_withLink sound fun link _ =>
      sound_flagOutcome sound fun value mesh call => ?_
    have after : (world.mesh.removeLink _ _ link).2 = mesh :=
      congrArg Prod.snd (Except.ok.inj call)
    rw [← after]
    exact .removeLink allowed atId link
  | bind session other =>
    refine holds_withEndpoint sound fun _ _ _ atId => sound_withLink sound fun _ _ => ?_
    split
    · exact sound
    · next call => exact sound.withMesh (.bind allowed atId call)
  | bindBest session opts =>
    exact holds_withEndpoint sound fun _ _ _ atId =>
      sound_bindBest sound (fun _ _ _ call => .bindChosen allowed atId call) opts
  | unbind session =>
    exact holds_withEndpoint sound fun _ _ _ atId =>
      sound_flagOutcome sound fun _ _ call => .unbind allowed atId call
  | canUse other | sessions other => exact sound_withLink sound fun _ _ => sound_askEndpoint sound _
  | resolve | reachWithout | hasAny | info => exact sound_askEndpoint sound _
  | same other =>
    exact holds_withEndpoint sound fun _ _ _ _ => holds_withEndpoint sound fun _ _ _ _ => sound

/-- Registries do not hold references, and what subscribers do in turn is allowed by assumption. -/
theorem sound_performEvents (sound : world.Sound handles) (request : EventRequest) :
    (world.performEvents perform label request).2.Sound handles := by
  cases request with
  | new => exact (sound.withMesh .newRegistry).nameRegistry label _
  | unsubscribe subscription =>
    refine holds_withRegistry sound fun id _ => ?_
    split
    · exact sound
    · exact sound.withMesh (.setRegistry id _)
  | count => exact holds_withRegistry sound fun _ _ => sound
  | dispatch event =>
    exact holds_withRegistry sound fun id _ => sound.dispatchAll performs id [event]

/-- Requests to routers are always allowed: whatever a router does to its endpoints is a move. -/
theorem sound_performRouter (sound : world.Sound handles) (request : RouterRequest) :
    (world.performRouter perform label request).2.Sound handles := by
  cases request with
  | new setup => exact sound_openRouter sound setup
  | openQueue other name guid =>
    exact sound_withRouter sound fun _ router _ => sound_openQueue sound name guid _
  | add name other keepAs =>
    exact sound_withRouter sound fun _ _ atId => sound_withLink sound fun _ opened =>
      (sound.withMesh (.reach atId opened name)).keep _ keepAs
  | get name keepAs =>
    refine sound_withRouter sound fun _ router _ => ?_
    split
    · exact sound
    · exact sound.keep _ keepAs
  | route name message =>
    exact sound_withRouter sound fun id router _ => sound.route performs id router name message
  | bind name session opts =>
    refine sound_withRouter sound fun _ router atId => ?_
    split
    · exact sound
    · next target endpoint found =>
      exact sound_bindBest sound
        (fun _ _ _ call => .bindSession atId (lookup_of_lookupOrFail found) call) opts
  | unbind name session =>
    refine sound_withRouter sound fun _ router atId =>
      sound_flagOutcome sound fun value mesh call => ?_
    obtain ⟨⟨target, endpoint⟩, found, rest⟩ := bind_eq_ok call
    exact .unbindSession atId (lookup_of_lookupOrFail found) (mapError_eq_ok rest)
  | lost other reason =>
    exact sound_withRouter sound fun _ _ atId => sound_withLink sound fun link _ =>
      sound.loseLink performs atId link reason
  | unreachable | info => exact sound_withRouter sound fun _ _ _ => sound
  | drop => exact sound_withRouter sound fun _ _ _ => sound.dropRouter label

/-- One step keeps worlds sound, given that the steps of scripts do. -/
theorem sound_performStep {step : Step} (sound : world.Sound handles)
    (allowed : step.Allowed handles) :
    (world.performStep perform step).2.Sound handles := by
  cases step with
  | link label request => exact sound_performLink performs sound allowed
  | scriptLink label name guid refusal cause scripts => exact sound.openLink label name guid allowed
  | rescriptLink label refusal cause scripts =>
    exact sound_withLink sound fun link _ => sound_rescript sound link refusal cause allowed
  | deliver links message => exact sound_performDelivery performs sound links message
  | table label request => exact sound_performTable sound request
  | endpoint label request => exact sound_performEndpoint performs sound allowed
  | subscribe registry label scripts crashes =>
    exact holds_withRegistry sound fun id _ => sound_subscribe sound id allowed
  | events label request => exact sound_performEvents performs sound request
  | router label request => exact sound_performRouter performs sound request
  | malformed => exact sound

end Requests

/-- By induction on the depth that scripts are nested in one another. -/
theorem performs_nested (handles : Prop) (depth : Nat) :
    Performs handles (performNested depth) := by
  induction depth with
  | zero =>
    have idle : Performs handles noScripts := fun _ _ sound _ => sound
    exact fun world step sound allowed => sound_performStep idle sound allowed
  | succ depth ih => exact fun world step sound allowed => sound_performStep ih sound allowed

/-- The depth is chosen by the number of scripts, so no script is cut off for want of it. -/
theorem Sound.perform {step : Step} (sound : world.Sound handles) (allowed : step.Allowed handles) :
    (world.perform step).2.Sound handles :=
  performs_nested handles _ world step sound allowed

/-- The worlds that scenarios of allowed steps lead to. -/
inductive Run (handles : Prop) : World → Prop
  | start : Run handles empty
  | next {world : World} {step : Step} : Run handles world → step.Allowed handles →
      (focus : Focus) →
      Run handles (world.report step focus).2

/-- From the step by induction: every world that a scenario leads to is sound. -/
theorem Run.sound (run : Run handles world) : world.Sound handles := by
  induction run with
  | start => exact sound_empty
  | next _ allowed focus ih =>
    exact Sound.perform ⟨ih.reached, ih.labelled, ih.carried, ih.subscribed⟩ allowed

end World

end DaemonMesh
