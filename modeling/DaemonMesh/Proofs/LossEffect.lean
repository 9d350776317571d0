import DaemonMesh.Proofs.LossReports
import DaemonMesh.Proofs.ReferenceCounts

namespace DaemonMesh

theorem sum_map_filterMap {α β : Type} (view : α → Option β) (weigh : β → Nat) (entries : List α) :
    ((entries.filterMap view).map weigh).sum =
      (entries.map fun entry => (view entry).elim 0 weigh).sum := by
  induction entries with
  | nil => rfl
  | cons entry rest ih =>
    cases seen : view entry with
    | none => simp [seen, ih]
    | some value => simp [seen, ih]

namespace Mesh

variable {mesh after : Mesh} {id : Nat} {router : Router} {link : Link} {order : List Nat}

/-- What a router reports of a lost link, and how it leaves the routing state, in terms of the state
before. -/
structure LossEffect (mesh : Mesh) (id : Nat) (router : Router) (link : Link) (report : LossReport)
    (after : Mesh) : Prop where
  lost : ∀ name session, (name, session) ∈ report.lost ↔ session ≠ .direct ∧
    ∃ target endpoint, mesh.lookup router name = some (target, endpoint) ∧
      link ∈ endpoint.routes.candidates session
  lostOnce : report.lost.Nodup
  blocks : ∃ blocks : List (String × List SessionId),
    report.lost = (blocks.flatMap fun block => block.2.map fun session => (block.1, session)) ∧
      (blocks.map Prod.fst).Nodup ∧ ∀ block ∈ blocks, block.2.Pairwise (· < ·)
  retired : ∀ name, name ∈ report.retired ↔ ∃ target endpoint,
    mesh.lookup router name = some (target, endpoint) ∧
      link ∈ endpoint.routes.candidates .direct ∧
        Endpoint.leftEmpty endpoint.everBound (endpoint.routes.removeLink link).2 link = true
  retiredOnce : report.retired.Nodup
  /-- The router loses the retired endpoints and no others. -/
  registry : ∃ endpoints, after.router? id = some { router with endpoints } ∧ ∀ name,
    endpoints.find? name = if name ∈ report.retired then none else router.endpoints.find? name
  cleared : ∀ current name target endpoint, after.router? id = some current →
    after.lookup current name = some (target, endpoint) →
      ∀ session, link ∉ endpoint.routes.candidates session
  spared : ∀ name target endpoint, mesh.lookup router name = some (target, endpoint) →
    link ∉ endpoint.routes.candidates .direct →
      after.endpoint? target = some endpoint ∧ name ∉ report.retired
  /-- Entries for other links stay in their order. Only a retired endpoint without any handle is
  gone. -/
  kept : ∀ name target endpoint, mesh.lookup router name = some (target, endpoint) →
    link ∈ endpoint.routes.candidates .direct →
      (∃ left, after.endpoint? target = some left ∧ ∀ session, left.routes.candidates session =
        (endpoint.routes.candidates session).filter fun other => other ≠ link) ∨
      (name ∈ report.retired ∧ target ∉ mesh.endpointHandles ∧ after.endpoint? target = none)
  outside : ∀ target, target ∉ router.endpoints.values →
    after.endpoint? target = mesh.endpoint? target
  count : mesh.count link = after.count link
    + ((mesh.registered router).map fun entry => entry.2.routes.sessionLinks.count link).sum
  counts : ∀ other : Link, other.number ≠ link.number → after.count other = mesh.count other
  again : ∀ current order, after.router? id = some current →
    order.Perm current.endpoints.values → after.loseLinkIn order id link = (.empty, after)

theorem loseLinkIn_spared (spared : ∀ target ∈ order, ∀ endpoint,
    mesh.endpoint? target = some endpoint → link ∉ endpoint.routes.directLinks) :
    mesh.loseLinkIn order id link = (.empty, mesh) := by
  unfold loseLinkIn
  induction order with
  | nil => rfl
  | cons target rest ih =>
    rw [List.foldl_cons, loseAt_spared (spared target List.mem_cons_self)]
    exact ih fun other member => spared other (List.mem_cons_of_mem _ member)

/-- A second loss finds nothing. -/
theorem loseLinkIn_cleared (registered : after.Registered)
    (cleared : ∀ current name target endpoint, after.router? id = some current →
      after.lookup current name = some (target, endpoint) →
        ∀ session, link ∉ endpoint.routes.candidates session)
    (current : Router) (order : List Nat) (atId : after.router? id = some current)
    (permuted : order.Perm current.endpoints.values) :
    after.loseLinkIn order id link = (.empty, after) := by
  refine loseLinkIn_spared fun target member endpoint there => ?_
  obtain ⟨other, alsoThere, found⟩ := (registered.visits atId permuted).listed target member
  rw [← Option.some.inj (there.symm.trans alsoThere)] at found
  have present := lookup_eq_some.mpr ⟨found, there⟩
  exact cleared current endpoint.name target endpoint atId present .direct

/-- The bindings to the lost link go, one for each time it was bound, and all others stay. -/
theorem LossFrame.perm {current : Router} (frame : LossFrame mesh id current link order after) :
    mesh.bindings.Perm
      (after.bindings ++ List.replicate (order.map (mesh.ridesAt link)).sum link) := by
  refine List.perm_iff_count.mpr fun other => ?_
  rw [frame.bindings other, List.count_append, List.count_replicate]
  by_cases same : other = link
  · rw [if_pos same, if_pos (beq_iff_eq.mpr same.symm)]
  · rw [if_neg same, if_neg fun equal => same (eq_of_beq equal).symm]

theorem sum_ridesAt (mesh : Mesh) (router : Router) (link : Link)
    (permuted : order.Perm router.endpoints.values) : (order.map (mesh.ridesAt link)).sum =
      ((mesh.registered router).map fun entry => entry.2.routes.sessionLinks.count link).sum := by
  rw [(permuted.map _).sum_nat, registered, sum_map_filterMap]
  unfold OrderedMap.values
  rw [List.map_map]
  refine congrArg List.sum (List.map_congr_left fun entry _ => ?_)
  unfold ridesAt
  dsimp only [Function.comp_apply]
  cases mesh.endpoint? entry.2 <;> rfl

theorem LossFrame.count {current : Router} (frame : LossFrame mesh id current link order after)
    (before : mesh.Balanced) (balanced : after.Balanced) (other : Link) :
    mesh.count other = after.count other
      + if other.number = link.number then (order.map (mesh.ridesAt link)).sum else 0 := by
  rw [before.counted, balanced.counted, frame.perm.countP_eq, List.countP_append,
    List.countP_replicate]
  by_cases same : other.number = link.number
  · rw [if_pos same, if_pos (beq_iff_eq.mpr same.symm)]
  · rw [if_neg same, if_neg fun equal => same (eq_of_beq equal).symm]

theorem LossFrame.cleared (frame : LossFrame mesh id router link order after)
    (visits : Visits mesh router order) (registered : mesh.Registered)
    (atId : mesh.router? id = some router) (valid : ∀ table ∈ mesh.liveTables, table.Valid)
    (current : Router) (name : String) (target : Nat) (endpoint : Endpoint)
    (atAfter : after.router? id = some current)
    (present : after.lookup current name = some (target, endpoint)) (session : SessionId) :
    link ∉ endpoint.routes.candidates session := by
  obtain ⟨endpoints, remains, entries⟩ := frame.router
  obtain ⟨found, there⟩ := lookup_eq_some.mp present
  rw [← Option.some.inj (remains.symm.trans atAfter), entries] at found
  split at found
  · cases found
  · obtain ⟨before, was, _⟩ := registered.known id router name target atId found
    obtain ⟨visited, _⟩ := visits.complete name target before (lookup_eq_some.mpr ⟨found, was⟩)
    have table := valid _ (mem_liveTables_iff.mpr (Or.inr ⟨target, before, was, rfl⟩))
    have loses := frame.inside target before visited was
    rw [there] at loses
    rcases loses with ⟨pathless, same⟩ | ⟨_, same | ⟨_, _, gone⟩⟩
    · rw [Option.some.inj same]
      exact fun bound => pathless (table.gate session link bound)
    · rw [Option.some.inj same]
      show link ∉ (before.routes.removeLink link).2.candidates session
      rw [RouteTable.candidates_removeLink table.ascending]
      simp
    · cases gone

theorem LossFrame.spares (frame : LossFrame mesh id router link order after)
    (visits : Visits mesh router order) (name : String) (target : Nat) (endpoint : Endpoint)
    (present : mesh.lookup router name = some (target, endpoint))
    (pathless : link ∉ endpoint.routes.directLinks) :
    after.endpoint? target = some endpoint ∧ name ∉ (mesh.lossReport link order).retired := by
  have there := (lookup_eq_some.mp present).2
  refine ⟨?_, fun fallen => ?_⟩
  · rcases frame.inside target endpoint (visits.complete name target endpoint present).1 there with
      ⟨_, same⟩ | ⟨direct, _⟩
    · exact same
    · exact (pathless direct).elim
  · obtain ⟨other, another, alsoPresent, direct, _⟩ := visits.retired_iff.mp fallen
    rw [present] at alsoPresent
    obtain ⟨rfl, rfl⟩ := Prod.mk.inj (Option.some.inj alsoPresent)
    exact pathless direct

theorem LossFrame.keeps (frame : LossFrame mesh id router link order after)
    (visits : Visits mesh router order) (valid : ∀ table ∈ mesh.liveTables, table.Valid)
    (name : String) (target : Nat) (endpoint : Endpoint)
    (present : mesh.lookup router name = some (target, endpoint))
    (direct : link ∈ endpoint.routes.directLinks) :
    (∃ left, after.endpoint? target = some left ∧ ∀ session, left.routes.candidates session =
      (endpoint.routes.candidates session).filter fun other => other ≠ link) ∨
    (name ∈ (mesh.lossReport link order).retired ∧ target ∉ mesh.endpointHandles ∧
      after.endpoint? target = none) := by
  have there := (lookup_eq_some.mp present).2
  have table := valid _ (mem_liveTables_iff.mpr (Or.inr ⟨target, endpoint, there, rfl⟩))
  rcases frame.inside target endpoint (visits.complete name target endpoint present).1 there with
    ⟨pathless, _⟩ | ⟨_, same | ⟨emptied, unheld, gone⟩⟩
  · exact (pathless direct).elim
  · exact Or.inl ⟨_, same, RouteTable.candidates_removeLink table.ascending link⟩
  · exact Or.inr ⟨visits.retired_iff.mpr ⟨target, endpoint, present, direct, emptied⟩, unheld, gone⟩

theorem Reach.lossEffect {handles : Prop} (reach : Reach handles mesh)
    (atId : mesh.router? id = some router) (permuted : order.Perm router.endpoints.values)
    (link : Link) : LossEffect mesh id router link (mesh.loseLinkIn order id link).1
      (mesh.loseLinkIn order id link).2 := by
  have accounted := reach.accounted
  have valid := accounted.valid
  have registered := reach.registered
  have visits := registered.visits atId permuted
  obtain ⟨report, frame⟩ := accounted.loseLinkIn registered atId permuted link
  have changes := changes_loseLinkIn trivial mesh order id link
  have counted := frame.count accounted.balance (changes.accounted accounted).balance
  have clear := frame.cleared visits registered atId valid
  obtain ⟨names, sessions⟩ := visits.blocks valid link
  rw [report]
  exact {
    lost := fun name session => visits.lost_iff valid
    lostOnce := flatMap_blocks_nodup names sessions
    blocks := ⟨_, rfl, names, sessions⟩
    retired := fun name => visits.retired_iff
    retiredOnce := visits.retired_nodup link
    registry := frame.router
    cleared := clear
    spared := frame.spares visits
    kept := frame.keeps visits valid
    outside := fun target outside => frame.outside target fun member =>
      outside (permuted.mem_iff.mp member)
    count := by
      rw [counted link, if_pos rfl, sum_ridesAt mesh router link permuted]
    counts := fun other different => by
      rw [counted other, if_neg different, Nat.add_zero]
    again := loseLinkIn_cleared (changes.registered registered) clear }

/-- A handle on a router has no part in it. -/
theorem LossEffect.unheld {report : LossReport} {held : Nat}
    (effect : LossEffect (mesh.holdRouter held) id router link report after) :
    LossEffect mesh id router link report after where
  lost := effect.lost
  lostOnce := effect.lostOnce
  blocks := effect.blocks
  retired := effect.retired
  retiredOnce := effect.retiredOnce
  registry := effect.registry
  cleared := effect.cleared
  spared := effect.spared
  kept := effect.kept
  outside := effect.outside
  count := effect.count
  counts := effect.counts
  again := effect.again

/-- Whatever goes on beside references, endpoints and routers: links are opened, say, or
subscriptions changed. -/
structure Aside (mesh next : Mesh) : Prop where
  endpoints : next.endpoints = mesh.endpoints
  routers : next.routers = mesh.routers
  counts : ∀ link : Link, next.count link = mesh.count link

theorem aside_self (mesh : Mesh) : mesh.Aside mesh := ⟨rfl, rfl, fun _ => rfl⟩

namespace Aside

variable {final : Mesh} (aside : after.Aside final)
include aside

theorem trans {later : Mesh} (more : final.Aside later) : after.Aside later where
  endpoints := more.endpoints.trans aside.endpoints
  routers := more.routers.trans aside.routers
  counts link := (more.counts link).trans (aside.counts link)

theorem endpoint?_eq (target : Nat) : final.endpoint? target = after.endpoint? target := by
  unfold endpoint?
  rw [aside.endpoints]

theorem router?_eq (id : Nat) : final.router? id = after.router? id := by
  unfold router?
  rw [aside.routers]

theorem lookup_eq (router : Router) (name : String) :
    final.lookup router name = after.lookup router name := by
  unfold lookup
  simp only [aside.endpoint?_eq]

theorem registered (registered : after.Registered) : final.Registered := by
  refine registered.shrink (fun id router atId => Or.inr ⟨router, ?_, router.shrinks_self⟩) ?_
  · rw [← aside.router?_eq]
    exact atId
  · intro id name target endpoint _ there
    exact ⟨endpoint, (aside.endpoint?_eq target).trans there, rfl, rfl⟩

/-- What goes on aside does not spoil the effect. -/
theorem lossEffect {report : LossReport} (effect : LossEffect mesh id router link report after)
    (known : after.Registered) : LossEffect mesh id router link report final := by
  have cleared : ∀ current name target endpoint, final.router? id = some current →
      final.lookup current name = some (target, endpoint) →
        ∀ session, link ∉ endpoint.routes.candidates session := by
    intro current name target endpoint atId present
    rw [aside.router?_eq] at atId
    rw [aside.lookup_eq] at present
    exact effect.cleared current name target endpoint atId present
  exact {
    lost := effect.lost
    lostOnce := effect.lostOnce
    blocks := effect.blocks
    retired := effect.retired
    retiredOnce := effect.retiredOnce
    registry := by
      rw [aside.router?_eq]
      exact effect.registry
    cleared
    spared := fun name target endpoint => by
      rw [aside.endpoint?_eq]
      exact effect.spared name target endpoint
    kept := fun name target endpoint => by
      rw [aside.endpoint?_eq]
      exact effect.kept name target endpoint
    outside := fun target outside => (aside.endpoint?_eq target).trans
      (effect.outside target outside)
    count := by
      rw [aside.counts]
      exact effect.count
    counts := fun other different => (aside.counts other).trans (effect.counts other different)
    again := loseLinkIn_cleared (aside.registered known) cleared }

end Aside

/-- A router with a handle left stays as it is. -/
theorem letGoRouter_held (held : id ∈ mesh.routerHandles.erase id) :
    mesh.letGoRouter id = { mesh with routerHandles := mesh.routerHandles.erase id } := by
  unfold letGoRouter
  dsimp only
  rw [if_pos (List.contains_iff_mem.mpr held)]

/-- A router held during a call is still held after it. -/
theorem held_beyond {lost told : Mesh} (held : id ∈ mesh.routerHandles)
    (handles : lost.routerHandles = (mesh.holdRouter id).routerHandles)
    (kept : lost.routerHandles.count id ≤ told.routerHandles.count id) :
    id ∈ told.routerHandles.erase id := by
  refine List.count_pos_iff.mp ?_
  have before : lost.routerHandles.count id = mesh.routerHandles.count id + 1 := by
    rw [handles]
    exact List.count_cons_self
  have one := List.count_pos_iff.mpr held
  rw [List.count_erase_self]
  omega

theorem aside_letGoRouter (held : id ∈ mesh.routerHandles.erase id) :
    mesh.Aside (mesh.letGoRouter id) := by
  rw [letGoRouter_held held]
  exact ⟨rfl, rfl, fun _ => rfl⟩

end Mesh

namespace World

variable {world : World} {perform : Performer} {quiet : World → Prop}

/-- Subscribers that leave references, endpoints and routers alone, whatever else they do: handling
an event leads from quiet worlds to quiet worlds. -/
def Quiet (perform : Performer) (quiet : World → Prop) : Prop :=
  ∀ world entry event, quiet world → quiet (world.notify perform entry event).2 ∧
    world.mesh.Aside (world.notify perform entry event).2.mesh ∧
      (world.notify perform entry event).2.mesh.routerHandles = world.mesh.routerHandles

/-- A subscriber without scripts takes note of an event, and that is all. -/
theorem notify_scriptless (perform : Performer)
    (scriptless : ∀ subscriber ∈ world.subscribers, subscriber.scripts = []) (entry : Subscription)
    (event : RouteEvent) :
    ∃ trace, (world.notify perform entry event).2 = { world with trace } := by
  unfold notify
  split
  · exact ⟨_, rfl⟩
  · next subscriber found =>
    have none := scriptless subscriber (List.mem_of_getElem? found)
    dsimp only
    split
    · exact ⟨_, rfl⟩
    · next waiting =>
      rw [none] at waiting
      cases waiting

theorem quiet_of_scriptless (perform : Performer) :
    Quiet perform fun world => ∀ subscriber ∈ world.subscribers, subscriber.scripts = [] := by
  intro world entry event scriptless
  obtain ⟨trace, noted⟩ := notify_scriptless perform scriptless entry event
  rw [noted]
  exact ⟨scriptless, Mesh.aside_self _, rfl⟩

theorem Quiet.dispatchAll (closed : Quiet perform quiet) (registry : Nat) (events : List RouteEvent)
    (start : quiet world) : world.mesh.Aside (world.dispatchAll perform registry events).2.mesh ∧
      (world.dispatchAll perform registry events).2.mesh.routerHandles =
        world.mesh.routerHandles :=
  (dispatchAll_follows (fun world next =>
      world.mesh.Aside next.mesh ∧ next.mesh.routerHandles = world.mesh.routerHandles)
    (fun world => ⟨Mesh.aside_self world.mesh, rfl⟩)
    (fun _ _ _ first second => ⟨first.1.trans second.1, second.2.trans first.2⟩) closed registry
    events start).2

/-- Subscribers that leave the routing state alone find it, and leave it, as the loss has made it.
-/
theorem loseLink_aside {handles : Prop} {id : Nat} {router : Router} {link : Link}
    (reach : Mesh.Reach handles world.mesh) (atId : world.mesh.router? id = some router)
    (held : id ∈ world.mesh.routerHandles) (reason : LossReason) (closed : Quiet perform quiet)
    (start : quiet (world.withMesh ((world.mesh.holdRouter id).loseLink id router link).2)) :
    ((world.mesh.holdRouter id).loseLink id router link).2.Aside
      (world.loseLink perform id router link reason).2.2.mesh := by
  have reachHeld := reach.next (.holdRouter id)
  have stillAt : (world.mesh.holdRouter id).router? id = some router := atId
  have whole : router.endpoints.values.Perm router.endpoints.values := List.Perm.refl _
  obtain ⟨_, frame⟩ := reachHeld.accounted.loseLinkIn reachHeld.registered stillAt whole link
  have handles := frame.routerHandles
  unfold World.loseLink loseLinkBy
  unfold Mesh.loseLink at start ⊢
  generalize (world.mesh.holdRouter id).loseLinkIn router.endpoints.values id link = lost at *
  obtain ⟨told, keptHandles⟩ := closed.dispatchAll router.registry (lost.1.events reason) start
  have remaining := Mesh.held_beyond held handles (congrArg (List.count id) keptHandles).ge
  exact told.trans (Mesh.aside_letGoRouter remaining)

theorem loseLink_effect {handles : Prop} {id : Nat} {router : Router} {link : Link}
    (reach : Mesh.Reach handles world.mesh) (atId : world.mesh.router? id = some router)
    (held : id ∈ world.mesh.routerHandles) (reason : LossReason) (closed : Quiet perform quiet)
    (start : quiet (world.withMesh ((world.mesh.holdRouter id).loseLink id router link).2)) :
    Mesh.LossEffect world.mesh id router link (world.loseLink perform id router link reason).1
      (world.loseLink perform id router link reason).2.2.mesh := by
  have reachHeld := reach.next (.holdRouter id)
  have stillAt : (world.mesh.holdRouter id).router? id = some router := atId
  have whole : router.endpoints.values.Perm router.endpoints.values := List.Perm.refl _
  have effect := (reachHeld.lossEffect stillAt whole link).unheld
  have registered := (reachHeld.next (.loseLink stillAt whole link)).registered
  exact (loseLink_aside reach atId held reason closed start).lossEffect effect registered

end World

/-- A lost link has its exact effect in whatever order the endpoints are visited, and the call as a
whole has it as long as the subscribers that hear of it do not call back. -/
theorem link_loss_effect {handles : Prop} {world : World} {id : Nat} {router : Router}
    (reach : Mesh.Reach handles world.mesh) (atId : world.mesh.router? id = some router)
    (link : Link) :
    (∀ order : List Nat, order.Perm router.endpoints.values →
      Mesh.LossEffect world.mesh id router link (world.mesh.loseLinkIn order id link).1
        (world.mesh.loseLinkIn order id link).2) ∧
      ∀ (perform : Performer) (quiet : World → Prop) (reason : LossReason),
        id ∈ world.mesh.routerHandles → World.Quiet perform quiet →
          quiet (world.withMesh ((world.mesh.holdRouter id).loseLink id router link).2) →
            Mesh.LossEffect world.mesh id router link
              (world.loseLink perform id router link reason).1
              (world.loseLink perform id router link reason).2.2.mesh :=
  ⟨fun _ permuted => reach.lossEffect atId permuted link,
    fun _ _ reason held closed start => World.loseLink_effect reach atId held reason closed start⟩

theorem link_loss_effect_twiceBound :
    ∃ after : Mesh, after.counts = [0] ∧
      Mesh.LossEffect Mesh.twiceBound 0 Mesh.sampleRouter Mesh.sampleLink
        ⟨[":b.5"], [(":b.5", ⟨7⟩)]⟩ after := by
  have reach : Mesh.Reach True ({ World.empty with mesh := Mesh.twiceBound } : World).mesh :=
    Mesh.reach_twiceBound True
  have effect := (link_loss_effect reach rfl Mesh.sampleLink).2 World.noScripts _ .linkTimeout
    List.mem_cons_self (World.quiet_of_scriptless World.noScripts) fun _ none => by cases none
  exact ⟨_, rfl, effect⟩

end DaemonMesh
