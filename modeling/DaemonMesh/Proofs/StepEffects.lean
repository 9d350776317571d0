import DaemonMesh.Proofs.LossFates
import DaemonMesh.Proofs.RegistryHistories
import DaemonMesh.Proofs.ScenarioRuns

namespace DaemonMesh

namespace Mesh

variable {mesh next later : Mesh} {id : Nat} {endpoint : Endpoint} {session : SessionId}
  {router : Router}

/-- Registries stay as they are, and the routers that are still there stay set up as they were. -/
structure Quiet (mesh next : Mesh) : Prop where
  registries : next.registries = mesh.registries
  setups : ∀ id router, next.router? id = some router →
    ∃ before, mesh.router? id = some before ∧ before.config = router.config

/-- Links, counts, tables, endpoints and handles are of no account here, so most of what the routing
does is quiet for the sake of two equations. -/
theorem quiet_of_routers (registries : next.registries = mesh.registries)
    (routers : next.routers = mesh.routers) : mesh.Quiet next where
  registries := registries
  setups id router atId := by
    unfold router? at atId ⊢
    rw [routers] at atId
    exact ⟨router, atId, rfl⟩

/-- Set-ups are compared with the start, so a router that goes in between takes nothing away. -/
theorem Quiet.trans (first : mesh.Quiet next) (second : next.Quiet later) : mesh.Quiet later where
  registries := second.registries.trans first.registries
  setups id router atId := by
    obtain ⟨between, atBetween, same⟩ := second.setups id router atId
    obtain ⟨before, atBefore, also⟩ := first.setups id between atBetween
    exact ⟨before, atBefore, also.trans same⟩

/-- A router may change its endpoints, since only its configuration is compared. -/
theorem quiet_setRouter {before : Router} (atId : mesh.router? id = some before)
    (same : before.config = router.config) : mesh.Quiet (mesh.setRouter id router) where
  registries := rfl
  setups other current atOther := by
    rw [router?_setRouter atId] at atOther
    split at atOther
    · next here =>
      obtain rfl := Option.some.inj atOther
      exact ⟨before, here ▸ atId, same⟩
    · exact ⟨current, atOther, rfl⟩

/-- Fewer routers are fewer to compare. -/
theorem quiet_removeRouter (mesh : Mesh) (id : Nat) :
    mesh.Quiet { mesh with routers := mesh.routers.set id none } where
  registries := rfl
  setups other current atOther := by
    have slot : (if other = id then none else mesh.router? other) = some current :=
      (join_getElem?_set (Or.inl rfl)).symm.trans atOther
    split at slot
    · cases slot
    · exact ⟨current, slot, rfl⟩

theorem Quiet.releaseAll (quiet : mesh.Quiet next) (links : List Link) :
    mesh.Quiet (next.releaseAll links) := by
  obtain ⟨counts, overdrawn, frame, _⟩ := next.releaseAll_frame links
  rw [frame]
  exact quiet.trans (quiet_of_routers rfl rfl)

theorem Quiet.discardUnheld (quiet : mesh.Quiet next) (id : Nat) :
    mesh.Quiet (next.discardUnheld id) := by
  obtain ⟨_, _, _, shape⟩ := next.discardUnheld_shape id
  rw [shape]
  exact quiet.trans (quiet_of_routers rfl rfl)

/-- With the last handle on it a router goes, and its endpoints with it; the routers that stay do
not notice. -/
theorem Quiet.letGoRouter (quiet : mesh.Quiet next) (id : Nat) :
    mesh.Quiet (next.letGoRouter id) := by
  unfold Mesh.letGoRouter
  dsimp only
  split
  · exact quiet.trans (quiet_of_routers rfl rfl)
  · split
    · exact quiet.trans (quiet_of_routers rfl rfl)
    · obtain ⟨_, _, _, shape⟩ := foldl_discardUnheld_shape _ _
      rw [shape]
      exact (quiet.trans (next.quiet_removeRouter id)).trans (quiet_of_routers rfl rfl)

theorem quiet_dropTable (mesh : Mesh) (id : Nat) : mesh.Quiet (mesh.dropTable id) := by
  unfold dropTable
  split
  · exact quiet_of_routers rfl rfl
  · refine .releaseAll ?_ _
    exact quiet_of_routers rfl rfl

theorem quiet_unbind {unbound : Bool}
    (call : mesh.unbind id endpoint session = .ok (unbound, next)) : mesh.Quiet next := by
  rcases unbind_ok call with ⟨_, rfl⟩ | ⟨_, freed, after, _, rfl⟩
  · exact quiet_of_routers rfl rfl
  · refine .releaseAll ?_ [freed]
    exact quiet_of_routers rfl rfl

theorem quiet_bindChosen {choice : Option Link} {chosen : Link}
    (call : mesh.bindChosen id endpoint session choice = .ok (chosen, next)) :
    mesh.Quiet next := by
  obtain ⟨_, after, _, rfl⟩ := bindChosen_ok call
  exact quiet_of_routers rfl rfl

/-- Making a name reachable writes to the endpoints of one router. Whether a new endpoint is made or
an old one is used again, the router keeps its set-up. -/
theorem quiet_reach (atId : mesh.router? id = some router) (name : String) (link : Link) :
    mesh.Quiet (mesh.reach id router name link).2 := by
  have registered : mesh.Quiet (mesh.register id router name link).2 := by
    have added : mesh.Quiet (mesh.addEndpoint (.reachedBy name link router.selector)).2 :=
      quiet_of_routers rfl rfl
    refine added.trans ?_
    exact quiet_setRouter atId rfl
  unfold reach
  split
  · exact registered
  · split
    · exact quiet_of_routers rfl rfl
    · exact registered.discardUnheld _

/-- An endpoint that is retired leaves the router that it was registered with. -/
theorem quiet_retire (mesh : Mesh) (id : Nat) (name : String) (target : Nat) :
    mesh.Quiet (mesh.retire id name target).2 := by
  unfold retire
  split
  · exact quiet_of_routers rfl rfl
  · next current atId =>
    split
    · refine .discardUnheld ?_ target
      exact quiet_setRouter atId rfl
    · exact quiet_of_routers rfl rfl

/-- A visit at a loss removes the link and may retire the endpoint, and neither concerns a set-up.
-/
theorem quiet_loseAt (id : Nat) (link : Link) (state : LossReport × Mesh) (target : Nat) :
    state.2.Quiet (loseAt id link state target).2 := by
  obtain ⟨report, mesh⟩ := state
  by_cases hit : ∃ endpoint, mesh.endpoint? target = some endpoint ∧
      link ∈ endpoint.routes.directLinks
  · obtain ⟨endpoint, there, direct⟩ := hit
    have removed : mesh.Quiet (mesh.removeLink target endpoint link).2 := by
      obtain ⟨counts, overdrawn, removal⟩ := mesh.removeLink_frame target endpoint link
      rw [removal]
      exact quiet_of_routers rfl rfl
    rw [loseAt_hit there direct]
    dsimp only
    split
    · exact removed.trans (quiet_retire _ id endpoint.name target)
    · exact removed
  · rw [loseAt_spared fun endpoint there direct => hit ⟨endpoint, there, direct⟩]
    exact quiet_of_routers rfl rfl

/-- From one visit to all of them, by induction on the order of the visits. -/
theorem quiet_loseLinkIn (mesh : Mesh) (order : List Nat) (id : Nat) (link : Link) :
    mesh.Quiet (mesh.loseLinkIn order id link).2 := by
  have fold (state : LossReport × Mesh) :
      state.2.Quiet (order.foldl (loseAt id link) state).2 := by
    induction order generalizing state with
    | nil => exact quiet_of_routers rfl rfl
    | cons first rest ih => exact (quiet_loseAt id link state first).trans (ih _)
  exact fold (.empty, mesh)

/-- What steps do, as far as registries and the set-up of routers go. New routers come with a
configuration that passed its check. -/
inductive Effect (mesh : Mesh) : Mesh → Prop
  | quiet {next : Mesh} (quiet : mesh.Quiet next) : Effect mesh next
  | addRegistry : Effect mesh mesh.addRegistry.2
  | subscribe (id subscriber : Nat) :
      Effect mesh (mesh.setRegistry id ((mesh.registry id).subscribe subscriber).2)
  | unsubscribe (id handle : Nat) :
      Effect mesh (mesh.setRegistry id ((mesh.registry id).unsubscribe handle))
  | addRouter (router : Router) (usable : router.config.validate = .ok ()) :
      Effect mesh (mesh.addRouter router).2

/-- A comparison of a mesh with what becomes of it that holds over any number of effects. -/
structure Tracks (keeps : Mesh → Mesh → Prop) : Prop where
  trans : ∀ {first second third}, keeps first second → keeps second third → keeps first third
  effect : ∀ {mesh next}, Effect mesh next → keeps mesh next

end Mesh

namespace World

/-- What steps are made of: a change of the routing state with the queues left alone, a call at one
end of a queue, or a new queue. A step that has to do with a scripted link leaves such a link
behind, and nothing more is said of it. -/
inductive Effect (world : World) : World → Prop
  | aside {next : World} (effect : world.mesh.Effect next.mesh)
      (carriers : next.carriers = world.carriers) : Effect world next
  | send {link : Link} {queue after : Queue} {message : Message}
      (atLink : world.carrier? link = some (.queue queue))
      (pushed : queue.push link.name message = .ok after) :
      Effect world (world.setCarrier link (.queue after))
  | receive {link : Link} {queue : Queue} (atLink : world.carrier? link = some (.queue queue))
      (isOpen : queue.isOpen = true) :
      Effect world (world.setCarrier link (.queue queue.receive.2))
  | drain {link : Link} {queue : Queue} (atLink : world.carrier? link = some (.queue queue))
      (isOpen : queue.isOpen = true) :
      Effect world (world.setCarrier link (.queue queue.drain.2))
  | close {link : Link} {queue : Queue} (atLink : world.carrier? link = some (.queue queue)) :
      Effect world (world.setCarrier link (.queue queue.close))
  | make (name : String) (guid : Guid) (capacity : Nat) :
      Effect world (world.addLink name guid (.queue (.opened capacity))).2
  | script {next : World} {place : Nat} {plan : ScriptedLink}
      (effect : world.mesh.Effect next.mesh)
      (there : next.carriers[place]? = some (.scripted plan)) : Effect world next

/-- A comparison of a world with what becomes of it that holds over any number of effects. -/
structure Tracks (keeps : World → World → Prop) : Prop where
  trans : ∀ {first second third}, keeps first second → keeps second third → keeps first third
  effect : ∀ {world next}, Effect world next → keeps world next

/-- Whatever is done, the world before and the world after compare so. -/
def Keeping (keeps : World → World → Prop) (perform : Performer) : Prop :=
  ∀ (world : World) (step : Step), keeps world (perform world step).2

variable {world next : World} {label : String}

/-- Queues are no matter of the routing state, except that a new one has a link of its own. -/
theorem Effect.mesh (effect : world.Effect next) : world.mesh.Effect next.mesh := by
  cases effect with
  | aside effect carriers => exact effect
  | script effect there => exact effect
  | send | receive | drain | close | make => exact .quiet (Mesh.quiet_of_routers rfl rfl)

/-- So what is tracked on routing states is tracked on worlds. -/
theorem tracks_mesh {keeps : Mesh → Mesh → Prop} (tracks : Mesh.Tracks keeps) :
    Tracks fun world next => keeps world.mesh next.mesh where
  trans := tracks.trans
  effect effect := tracks.effect effect.mesh

namespace Tracks

variable {keeps : World → World → Prop} (tracks : Tracks keeps)
include tracks

/-- What leaves registries, set-ups and queues alone is tracked. -/
theorem quiet (quiet : world.mesh.Quiet next.mesh) (carriers : next.carriers = world.carriers) :
    keeps world next := tracks.effect (.aside (.quiet quiet) carriers)

/-- In the simplest case registries, routers and queues are literally the same. -/
theorem still (registries : next.mesh.registries = world.mesh.registries)
    (routers : next.mesh.routers = world.mesh.routers)
    (carriers : next.carriers = world.carriers) : keeps world next :=
  tracks.quiet (Mesh.quiet_of_routers registries routers) carriers

/-- Nothing at all is an effect, too. -/
theorem self (world : World) : keeps world world := tracks.still rfl rfl rfl

end Tracks

section Carriers

/-- Who loses a label loses its receiving end, which is no part of the routing state. -/
@[simp] theorem mesh_closeLabelled (world : World) (label : String) :
    (world.closeLabelled label).mesh = world.mesh := by
  unfold closeLabelled
  split
  · rfl
  · split <;> rfl

/-- The receiving end of a queue has no access to the routing state. -/
@[simp] theorem mesh_atReceiver (world : World) (link : Link) (go : Queue → Answer × Queue) :
    (world.atReceiver link go).2.mesh = world.mesh := by
  unfold atReceiver
  split
  · split <;> rfl
  · rfl

@[simp] theorem mesh_closeReceiver (world : World) (link : Link) :
    (world.closeReceiver link).2.mesh = world.mesh := by
  unfold closeReceiver
  split <;> rfl

@[simp] theorem carriers_dropTable (world : World) (label : String) :
    (world.dropTable label).carriers = world.carriers := by
  unfold dropTable
  split <;> rfl

@[simp] theorem carriers_dropEndpoint (world : World) (label : String) :
    (world.dropEndpoint label).carriers = world.carriers := by
  unfold dropEndpoint
  split <;> rfl

@[simp] theorem carriers_dropRouter (world : World) (label : String) :
    (world.dropRouter label).carriers = world.carriers := by
  unfold dropRouter
  split <;> rfl

/-- Asking a selector leaves a trace and nothing else. -/
@[simp] theorem carriers_witnessSelection (world : World) (endpoint : Endpoint)
    (session : SessionId) (opts : Option SessionOpts) :
    (world.witnessSelection endpoint session opts).carriers = world.carriers := by
  unfold witnessSelection
  split
  · rfl
  · split <;> rfl

end Carriers

section Tracked

variable {keeps : World → World → Prop} (tracks : Tracks keeps)
include tracks

/-- Only a queue has a receiving end to lose; for a scripted link nothing happens. -/
theorem keeps_closeLabelled (world : World) (label : String) :
    keeps world (world.closeLabelled label) := by
  unfold closeLabelled
  split
  · exact tracks.self world
  · split
    · next atLink => exact tracks.effect (.close atLink)
    · exact tracks.self world

/-- The old link of the label loses its receiving end before the new one is made. A capacity that is
refused changes nothing. -/
theorem keeps_openQueue (world : World) (label name : String) (guid : Guid) (capacity : Nat) :
    keeps world (world.openQueue label name guid capacity).2 := by
  have made := tracks.trans (keeps_closeLabelled tracks world label)
    (tracks.effect (.make name guid capacity))
  unfold openQueue
  split
  · exact tracks.self world
  · split
    · exact tracks.self world
    · exact tracks.trans made (tracks.still rfl rfl rfl)

/-- A scripted link stays for good, which is all that is said of a step that makes one. -/
theorem keeps_openScripted (world : World) (label name : String) (guid : Guid)
    (plan : ScriptedLink) : keeps world (world.openLink label name guid (.scripted plan)) := by
  have opened : (world.closeLabelled label).mesh.Quiet
      (world.openLink label name guid (.scripted plan)).mesh := Mesh.quiet_of_routers rfl rfl
  rw [mesh_closeLabelled] at opened
  exact tracks.effect (.script (.quiet opened) List.getElem?_concat_length)

/-- What is laid down for a scripted link changes only where there is one. -/
theorem keeps_rescript (world : World) (link : Link) (refusal : Option Refusal)
    (cause : Option RefusalCause) (scripts : Option (List (List Step))) :
    keeps world (world.rescript link refusal cause scripts).2 := by
  unfold rescript
  split
  · next plan found =>
    have within := (List.getElem?_eq_some_iff.mp found).1
    exact tracks.effect (.script (.quiet (Mesh.quiet_of_routers rfl rfl))
      (List.getElem?_set_self within))
  · exact tracks.self world

theorem keeps_closeReceiver (world : World) (link : Link) :
    keeps world (world.closeReceiver link).2 := by
  unfold closeReceiver
  split
  · next atLink => exact tracks.effect (.close atLink)
  · exact tracks.self world

/-- A receiving end that is gone is not asked for messages, so what is done there may rely on its
being open. -/
theorem keeps_atReceiver {link : Link} {go : Queue → Answer × Queue}
    (effect : ∀ queue, world.carrier? link = some (.queue queue) → queue.isOpen = true →
      Effect world (world.setCarrier link (.queue (go queue).2))) :
    keeps world (world.atReceiver link go).2 := by
  unfold atReceiver
  split
  · next queue atLink =>
    split
    · next isOpen => exact tracks.effect (effect queue atLink isOpen)
    · exact tracks.self world
  · exact tracks.self world

theorem keeps_dropTable (world : World) (label : String) : keeps world (world.dropTable label) := by
  refine tracks.quiet ?_ (carriers_dropTable world label)
  unfold dropTable
  split
  · exact Mesh.quiet_of_routers rfl rfl
  · exact Mesh.quiet_dropTable _ _

theorem keeps_nameTable (world : World) (label : String) (table : RouteTable) :
    keeps world (world.nameTable label table) :=
  tracks.trans (keeps_dropTable tracks world label) (tracks.still rfl rfl rfl)

theorem keeps_dropEndpoint (world : World) (label : String) :
    keeps world (world.dropEndpoint label) := by
  refine tracks.quiet ?_ (carriers_dropEndpoint world label)
  unfold dropEndpoint
  split
  · exact Mesh.quiet_of_routers rfl rfl
  · refine .discardUnheld ?_ _
    exact Mesh.quiet_of_routers rfl rfl

/-- The handle for the label is taken before the old one is let go. Both are quiet, whichever
endpoint each is on. -/
theorem keeps_nameEndpoint (world : World) (label : String) (id : Nat) :
    keeps world (world.nameEndpoint label id) := by
  have held : keeps world (world.withMesh (world.mesh.holdEndpoint id)) :=
    tracks.still rfl rfl rfl
  exact tracks.trans (tracks.trans held (keeps_dropEndpoint tracks _ label))
    (tracks.still rfl rfl rfl)

theorem keeps_keep (world : World) (id : Nat) (label : Option String) :
    keeps world (world.keep id label) := by
  cases label with
  | none => exact tracks.self world
  | some label => exact keeps_nameEndpoint tracks world label id

theorem keeps_dropRouter (world : World) (label : String) :
    keeps world (world.dropRouter label) := by
  refine tracks.quiet ?_ (carriers_dropRouter world label)
  unfold dropRouter
  split
  · exact Mesh.quiet_of_routers rfl rfl
  · refine .letGoRouter ?_ _
    exact Mesh.quiet_of_routers rfl rfl

/-- The handle that a call had on its router is given back at the end. -/
theorem keeps_letGoRouter (world : World) (id : Nat) :
    keeps world (world.withMesh (world.mesh.letGoRouter id)) := by
  refine tracks.quiet (.letGoRouter ?_ id) rfl
  exact Mesh.quiet_of_routers rfl rfl

/-- A registry of its own may be made even for a router that is then refused. The router itself is
added only if its configuration passes the check. -/
theorem keeps_openRouter (world : World) (label : String) (setup : RouterSetup) :
    keeps world (world.openRouter label setup).2 := by
  unfold openRouter
  split
  · exact tracks.self world
  · next registry prepared found =>
    have ready : keeps world prepared := by
      unfold registryFor at found
      split at found
      · obtain ⟨rfl, rfl⟩ := Prod.mk.inj (Option.some.inj found)
        exact tracks.effect (.aside .addRegistry rfl)
      · obtain ⟨id, _, same⟩ := Option.map_eq_some_iff.mp found
        obtain ⟨rfl, rfl⟩ := Prod.mk.inj same
        exact tracks.self _
    split
    · exact tracks.self world
    · next usable =>
      let router : Router := ⟨.empty, setup.selector, registry, setup.config⟩
      let vacated := prepared.dropRouter label
      have added : keeps vacated (vacated.withMesh (vacated.mesh.addRouter router).2) :=
        tracks.effect (.aside (.addRouter router usable) rfl)
      exact tracks.trans (tracks.trans ready (keeps_dropRouter tracks prepared label))
        (tracks.trans added (tracks.still rfl rfl rfl))

/-- A call that says yes or no tracks what its change of the mesh does, and a call that fails
changes nothing. -/
theorem keeps_flagOutcome {result : Except Failure (Bool × Mesh)}
    (quiet : ∀ value mesh, result = .ok (value, mesh) → world.mesh.Quiet mesh) :
    keeps world (world.flagOutcome result).2 :=
  holds_flagOutcome (tracks.self world) fun value mesh call =>
    tracks.quiet (quiet value mesh call) rfl

/-- The selector is asked first, and what it answers decides no more than which link is bound. -/
theorem keeps_bindBest (world : World) (id : Nat) (endpoint : Endpoint) (session : SessionId)
    (opts : Option SessionOpts) : keeps world (world.bindBest id endpoint session opts).2 := by
  have same := mesh_witnessSelection world endpoint session opts
  have carriers := carriers_witnessSelection world endpoint session opts
  unfold bindBest
  dsimp only
  split
  · refine tracks.still ?_ ?_ carriers <;> rw [same]
  · next chosen mesh call =>
    rw [same] at call
    exact tracks.quiet (Mesh.quiet_bindChosen call) carriers

/-- Tables outside of endpoints are known to no router and no queue, so all that is done to them is
quiet. -/
theorem keeps_performTable (world : World) (label : String) (request : TableRequest) :
    keeps world (world.performTable label request).2 := by
  have rest := tracks.self world
  cases request with
  | new direct =>
    cases direct with
    | none => exact keeps_nameTable tracks world label _
    | some other => exact holds_withLink rest fun _ _ => keeps_nameTable tracks world label _
  | drop => exact holds_withTable rest fun _ _ _ => keeps_dropTable tracks world label
  | insert other =>
    exact holds_withTable rest fun _ _ _ => holds_withLink rest fun _ _ =>
      tracks.still rfl rfl rfl
  | bind session other =>
    refine holds_withTable rest fun _ _ _ => holds_withLink rest fun _ _ => ?_
    split
    · exact rest
    · next call =>
      rcases Mesh.bindTable_ok call with ⟨_, rfl⟩ | ⟨_, _, _, rfl⟩ <;>
        exact tracks.still rfl rfl rfl
  | unbind session =>
    refine holds_withTable rest fun _ _ _ => ?_
    split
    · exact rest
    · next call =>
      rcases Mesh.unbindTable_ok call with ⟨_, rfl⟩ | ⟨_, freed, _, _, rfl⟩
      · exact tracks.still rfl rfl rfl
      · refine tracks.quiet (.releaseAll ?_ [freed]) rfl
        exact Mesh.quiet_of_routers rfl rfl
  | remove other =>
    refine holds_withTable rest fun _ _ _ => holds_withLink rest fun _ _ => ?_
    refine tracks.quiet (.releaseAll ?_ _) rfl
    exact Mesh.quiet_of_routers rfl rfl
  | hasDirect other | sessions other =>
    exact holds_withLink rest fun _ _ => holds_withTable rest fun _ _ _ => rest
  | candidates | first | direct | reaches | routesWithout | hasNamed | links | info | select =>
    exact holds_withTable rest fun _ _ _ => rest

section Scripts

variable {perform : Performer} (keeping : Keeping keeps perform)
include keeping

/-- The induction is over the script. Each of its steps is tracked by assumption, and the note of
its outcome is a trace only. -/
theorem keeps_runScript (witness : Outcome → TraceEntry) (script : List Step) {start : World}
    (begun : keeps world start) : keeps world (start.runScript perform witness script) := by
  induction script generalizing start with
  | nil => exact begun
  | cons step rest ih =>
    exact ih (tracks.trans (tracks.trans begun (keeping start step)) (tracks.still rfl rfl rfl))

/-- A queue takes the message or is left as it is. A scripted link may run a script afterwards, but
then there is a scripted link. -/
theorem keeps_push (world : World) (link : Link) (message : Message) :
    keeps world (world.push perform link message).2 := by
  unfold push
  split
  · exact tracks.self world
  · next queue atLink =>
    split
    · exact tracks.self world
    · next after pushed => exact tracks.effect (.send atLink pushed)
  · next plan atLink =>
    have within := (List.getElem?_eq_some_iff.mp atLink).1
    dsimp only
    split
    · exact tracks.still rfl rfl rfl
    · next script scripts _ =>
      refine keeps_runScript tracks keeping _ _ (tracks.effect (.script ?_
        (List.getElem?_set_self within)))
      exact .quiet (Mesh.quiet_of_routers rfl rfl)

/-- The links are tried in turn, and what each of them does is tracked before the next is tried. -/
theorem keeps_deliver (message : Message) (links : List Link) (world : World) :
    keeps world (deliver (push perform) message links 0 world).2 :=
  @deliver_keeps World (keeps world) (push perform)
    (fun after link message before =>
      tracks.trans before (keeps_push tracks keeping after link message))
    message links 0 world (tracks.self world)

/-- While the message is on its way the endpoint is held, so letting it go is part of the call. -/
theorem keeps_send (world : World) (id : Nat) (endpoint : Endpoint) (message : Message)
    (session : SessionId) : keeps world (world.send perform id endpoint message session).2 := by
  have held : keeps world (world.withMesh (world.mesh.holdEndpoint id)) :=
    tracks.still rfl rfl rfl
  have sent := keeps_deliver tracks keeping message (endpoint.routes.candidates session)
    (world.withMesh (world.mesh.holdEndpoint id))
  have let_go (after : World) : keeps after (after.withMesh (after.mesh.letGoEndpoint id)) := by
    refine tracks.quiet (.discardUnheld ?_ _) rfl
    exact Mesh.quiet_of_routers rfl rfl
  unfold send
  dsimp only
  split <;> exact tracks.trans (tracks.trans held sent) (let_go _)

/-- Whatever a subscriber does when it is called, it does by a script. -/
theorem keeps_notify (world : World) (entry : Subscription) (event : RouteEvent) :
    keeps world (world.notify perform entry event).2 := by
  unfold notify
  split
  · exact tracks.self world
  · dsimp only
    split
    · exact tracks.still rfl rfl rfl
    · exact keeps_runScript tracks keeping _ _ (tracks.still rfl rfl rfl)

/-- Events are told one after the other, each to the subscribers of its own moment. -/
theorem keeps_dispatchAll (registry : Nat) (events : List RouteEvent) (world : World) :
    keeps world (world.dispatchAll perform registry events).2 :=
  (@dispatchAll_follows perform (fun _ => True) keeps tracks.self
    (fun _ _ _ first second => tracks.trans first second)
    (fun world entry event _ => ⟨trivial, keeps_notify tracks keeping world entry event⟩) registry
    events world trivial).2

/-- First the whole loss, then the telling, then the handle on the router is given back. -/
theorem keeps_loseLinkBy (world : World) (order : List Nat) (id : Nat) (router : Router)
    (link : Link) (reason : LossReason) :
    keeps world (world.loseLinkBy (dispatchAll perform) order id router link reason).2.2.2 := by
  have held : world.mesh.Quiet (world.mesh.holdRouter id) := Mesh.quiet_of_routers rfl rfl
  have lost : keeps world
      (world.withMesh ((world.mesh.holdRouter id).loseLinkIn order id link).2) :=
    tracks.quiet (held.trans (Mesh.quiet_loseLinkIn _ order id link)) rfl
  have told := keeps_dispatchAll tracks keeping router.registry
    (((world.mesh.holdRouter id).loseLinkIn order id link).1.events reason)
    (world.withMesh ((world.mesh.holdRouter id).loseLinkIn order id link).2)
  exact tracks.trans (tracks.trans lost told) (keeps_letGoRouter tracks _ id)

/-- Like a send, with the router held around it. -/
theorem keeps_route (world : World) (id : Nat) (router : Router) (name : String)
    (message : Message) : keeps world (world.route perform id router name message).2 := by
  unfold route
  split
  · exact tracks.self world
  · next target endpoint _ =>
    have held : keeps world (world.withMesh (world.mesh.holdRouter id)) :=
      tracks.still rfl rfl rfl
    have sent := keeps_send tracks keeping (world.withMesh (world.mesh.holdRouter id)) target
      endpoint message message.session
    exact tracks.trans (tracks.trans held sent) (keeps_letGoRouter tracks _ id)

theorem keeps_performLink (world : World) (label : String) (request : LinkRequest) :
    keeps world (world.performLink perform label request).2 := by
  have rest := tracks.self world
  cases request with
  | openQueue name guid capacity => exact keeps_openQueue tracks world label name guid _
  | acquire => exact holds_withLink rest fun _ _ => tracks.still rfl rfl rfl
  | release =>
    refine holds_withLink rest fun link _ => tracks.quiet (.releaseAll ?_ [link]) rfl
    exact Mesh.quiet_of_routers rfl rfl
  | push message =>
    refine holds_withLink rest fun link _ => ?_
    have pushed := keeps_push tracks keeping world link message
    split
    · next taken => rw [taken] at pushed; exact pushed
    · next refused => rw [refused] at pushed; exact pushed
  | receive =>
    exact holds_withLink rest fun _ _ => keeps_atReceiver tracks fun _ => .receive
  | drain =>
    exact holds_withLink rest fun _ _ => keeps_atReceiver tracks fun _ => .drain
  | close => exact holds_withLink rest fun link _ => keeps_closeReceiver tracks world link
  | info => exact holds_withLink rest fun _ _ => rest
  | same other => exact holds_withLink rest fun _ _ => holds_withLink rest fun _ _ => rest

theorem keeps_performDelivery (world : World) (links : List String) (message : Message) :
    keeps world (world.performDelivery perform links message).2 := by
  unfold performDelivery
  split
  · exact tracks.self world
  · next targets _ =>
    have sent := keeps_deliver tracks keeping message targets world
    split
    · next taken => rw [taken] at sent; exact sent
    · next refused => rw [refused] at sent; exact sent

theorem keeps_performEndpoint (world : World) (label : String) (request : EndpointRequest) :
    keeps world (world.performEndpoint perform label request).2 := by
  have rest := tracks.self world
  cases request with
  | new name other selector =>
    refine holds_withLink rest fun link _ => ?_
    let grown := world.mesh.addEndpoint (.reachedBy name link selector)
    have added : keeps world (world.withMesh grown.2) := tracks.still rfl rfl rfl
    exact tracks.trans added (keeps_nameEndpoint tracks (world.withMesh grown.2) label grown.1)
  | drop => exact holds_withEndpoint rest fun _ _ _ _ => keeps_dropEndpoint tracks world label
  | push message =>
    exact holds_withEndpoint rest fun id endpoint _ _ =>
      keeps_send tracks keeping world id endpoint message message.session
  | pushTo message session =>
    exact holds_withEndpoint rest fun id endpoint _ _ =>
      keeps_send tracks keeping world id endpoint message session
  | addLink other =>
    refine holds_withEndpoint rest fun _ _ _ _ => holds_withLink rest fun _ _ =>
      keeps_flagOutcome tracks ?_
    intro value mesh call
    obtain ⟨after, _, rfl⟩ := Mesh.addLink_ok call
    exact Mesh.quiet_of_routers rfl rfl
  | removeLink other =>
    refine holds_withEndpoint rest fun _ _ _ _ => holds_withLink rest fun link _ =>
      keeps_flagOutcome tracks ?_
    intro value mesh call
    have after : (world.mesh.removeLink _ _ link).2 = mesh :=
      congrArg Prod.snd (Except.ok.inj call)
    rw [← after]
    refine .releaseAll ?_ _
    exact Mesh.quiet_of_routers rfl rfl
  | bind session other =>
    refine holds_withEndpoint rest fun _ _ _ _ => holds_withLink rest fun _ _ => ?_
    split
    · exact rest
    · next call =>
      obtain ⟨after, _, rfl⟩ := Mesh.bind_ok call
      exact tracks.still rfl rfl rfl
  | bindBest session opts =>
    exact holds_withEndpoint rest fun id endpoint _ _ =>
      keeps_bindBest tracks world id endpoint session opts
  | unbind session =>
    exact holds_withEndpoint rest fun _ _ _ _ =>
      keeps_flagOutcome tracks fun _ _ call => Mesh.quiet_unbind call
  | canUse other | sessions other =>
    exact holds_withLink rest fun _ _ => holds_withEndpoint rest fun _ _ _ _ => rest
  | resolve | reachWithout | hasAny | info => exact holds_withEndpoint rest fun _ _ _ _ => rest
  | same other =>
    exact holds_withEndpoint rest fun _ _ _ _ => holds_withEndpoint rest fun _ _ _ _ => rest

/-- Only registries are at stake here, and they change by the effects that are there for them. -/
theorem keeps_performEvents (world : World) (label : String) (request : EventRequest) :
    keeps world (world.performEvents perform label request).2 := by
  have rest := tracks.self world
  cases request with
  | new => exact tracks.effect (.aside .addRegistry rfl)
  | unsubscribe subscription =>
    refine holds_withRegistry rest fun id _ => ?_
    split
    · exact rest
    · exact tracks.effect (.aside (.unsubscribe id _) rfl)
  | count => exact holds_withRegistry rest fun _ _ => rest
  | dispatch event =>
    exact holds_withRegistry rest fun id _ => keeps_dispatchAll tracks keeping id [event] world

/-- Every request to a router comes down to effects that were shown above. -/
theorem keeps_performRouter (world : World) (label : String) (request : RouterRequest) :
    keeps world (world.performRouter perform label request).2 := by
  have rest := tracks.self world
  cases request with
  | new setup => exact keeps_openRouter tracks world label setup
  | openQueue other name guid =>
    exact holds_withRouter rest fun _ router _ _ =>
      keeps_openQueue tracks world other name guid _
  | add name other keepAs =>
    refine holds_withRouter rest fun id router _ atId => holds_withLink rest fun link _ => ?_
    let reached := world.mesh.reach id router name link
    have reaches : keeps world (world.withMesh reached.2) :=
      tracks.quiet (Mesh.quiet_reach atId name link) rfl
    exact tracks.trans reaches (keeps_keep tracks (world.withMesh reached.2) reached.1 keepAs)
  | get name keepAs =>
    refine holds_withRouter rest fun _ router _ _ => ?_
    split
    · exact rest
    · exact keeps_keep tracks world _ keepAs
  | route name message =>
    exact holds_withRouter rest fun id router _ _ =>
      keeps_route tracks keeping world id router name message
  | bind name session opts =>
    refine holds_withRouter rest fun _ router _ _ => ?_
    split
    · exact rest
    · exact keeps_bindBest tracks world _ _ session opts
  | unbind name session =>
    refine holds_withRouter rest fun _ router _ _ =>
      keeps_flagOutcome tracks fun value mesh call => ?_
    obtain ⟨⟨target, endpoint⟩, _, unbound⟩ := bind_eq_ok call
    exact Mesh.quiet_unbind (mapError_eq_ok unbound)
  | lost other reason =>
    exact holds_withRouter rest fun id router _ _ => holds_withLink rest fun link _ =>
      keeps_loseLinkBy tracks keeping world router.endpoints.values id router link reason
  | unreachable | info => exact holds_withRouter rest fun _ _ _ _ => rest
  | drop => exact holds_withRouter rest fun _ _ _ _ => keeps_dropRouter tracks world label

/-- One step of a scenario, as far as scripts are carried out by somebody who tracks. -/
theorem keeps_performStep (world : World) (step : Step) :
    keeps world (world.performStep perform step).2 := by
  have rest := tracks.self world
  cases step with
  | link label request => exact keeps_performLink tracks keeping world label request
  | scriptLink label name guid refusal cause scripts =>
    exact keeps_openScripted tracks world label name guid _
  | rescriptLink label refusal cause scripts =>
    exact holds_withLink rest fun link _ => keeps_rescript tracks world link refusal cause scripts
  | deliver links message => exact keeps_performDelivery tracks keeping world links message
  | table label request => exact keeps_performTable tracks world label request
  | endpoint label request => exact keeps_performEndpoint tracks keeping world label request
  | subscribe registry label scripts crashes =>
    exact holds_withRegistry rest fun id _ => tracks.effect (.aside (.subscribe id _) rfl)
  | events label request => exact keeps_performEvents tracks keeping world label request
  | router label request => exact keeps_performRouter tracks keeping world label request
  | malformed => exact rest

end Scripts

/-- What holds over the effects of single steps holds over all steps of the scripts that they set
off, too. -/
theorem keeping_nested (depth : Nat) : Keeping keeps (performNested depth) := by
  induction depth with
  | zero =>
    have idle : Keeping keeps noScripts := fun world _ => tracks.self world
    exact keeps_performStep tracks idle
  | succ depth ih => exact keeps_performStep tracks ih

end Tracked

end World

end DaemonMesh
