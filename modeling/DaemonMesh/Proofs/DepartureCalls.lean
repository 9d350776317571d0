import DaemonMesh.Proofs.DaemonDeparture

namespace DaemonMesh

theorem Mesh.apart_letGoRouter {mesh : Mesh} {id : Nat} (held : id ∈ mesh.routerHandles.erase id) :
    mesh.Apart (mesh.letGoRouter id) := by
  rw [letGoRouter_held held]
  exact ⟨⟨rfl, rfl, fun _ => rfl⟩, rfl, rfl⟩

namespace World

/-- Reports links as lost to a router one after the other. -/
def loseLinks (perform : Performer) (id : Nat) :
    List (Link × LossReason) → World → List (Link × LossReport) × World
  | [], world => ([], world)
  | (link, reason) :: rest, world =>
    match world.mesh.router? id with
    | none => ([], world)
    | some router =>
      let (report, _, world) := world.loseLink perform id router link reason
      let (losses, world) := loseLinks perform id rest world
      ((link, report) :: losses, world)

/-- A world that has gone on without touching routes, references or routers. -/
structure GoesOnApart (world next : World) : Prop where
  apart : world.mesh.Apart next.mesh
  routerHandles : next.mesh.routerHandles = world.mesh.routerHandles
  reach : Mesh.Reach False world.mesh → Mesh.Reach False next.mesh

/-- Subscribers that do not call back: from calm worlds, whatever they do at an event leads to calm
worlds and is apart from all routes. -/
structure Calm (perform : Performer) (calm : World → Prop) : Prop where
  hears : ∀ world entry event, calm world → calm (world.notify perform entry event).2 ∧
    world.GoesOnApart (world.notify perform entry event).2
  goesOn : ∀ world mesh, calm world → calm (world.withMesh mesh)

variable {world : World} {perform : Performer} {calm : World → Prop}

theorem calm_of_scriptless (perform : Performer) :
    Calm perform fun world => ∀ subscriber ∈ world.subscribers, subscriber.scripts = [] where
  hears world entry event scriptless := by
    obtain ⟨trace, noted⟩ := notify_scriptless perform scriptless entry event
    rw [noted]
    exact ⟨scriptless, Mesh.apart_self _, rfl, fun reach => reach⟩
  goesOn _ _ scriptless := scriptless

theorem Calm.dispatchAll (closed : Calm perform calm) (registry : Nat) (events : List RouteEvent)
    (start : calm world) : calm (world.dispatchAll perform registry events).2 ∧
      world.GoesOnApart (world.dispatchAll perform registry events).2 :=
  dispatchAll_follows GoesOnApart (fun world => ⟨Mesh.apart_self world.mesh, rfl, id⟩)
    (fun _ _ _ first second => ⟨first.apart.trans second.apart,
      second.routerHandles.trans first.routerHandles, second.reach ∘ first.reach⟩)
    closed.hears registry events start

variable {start : Mesh} {id : Nat} {past : List (Link × LossReport)}

/-- A call that reports a link as lost is one loss more, and leaves the router held as it was. -/
theorem Calm.loseLink (closed : Calm perform calm) (from_calm : calm world)
    (run : Mesh.Losses False id start past world.mesh) (reach : Mesh.Reach False world.mesh)
    {router : Router} (atId : world.mesh.router? id = some router)
    (held : id ∈ world.mesh.routerHandles) (link : Link) (reason : LossReason) :
    Mesh.Losses False id start (past ++ [(link, (world.loseLink perform id router link reason).1)])
        (world.loseLink perform id router link reason).2.2.mesh ∧
      id ∈ (world.loseLink perform id router link reason).2.2.mesh.routerHandles ∧
        calm (world.loseLink perform id router link reason).2.2 := by
  have reachHeld := reach.next (.holdRouter id)
  have stillAt : (world.mesh.holdRouter id).router? id = some router := atId
  have whole : router.endpoints.values.Perm router.endpoints.values := List.Perm.refl _
  have holding : world.mesh.Apart (world.mesh.holdRouter id) :=
    ⟨⟨rfl, rfl, fun _ => rfl⟩, rfl, rfl⟩
  have lost := (run.apart holding reachHeld).lose stillAt whole link
  have reachLost := reachHeld.next (.loseLink stillAt whole link)
  obtain ⟨_, frame⟩ := reachHeld.accounted.loseLinkIn reachHeld.registered stillAt whole link
  have handles := frame.routerHandles
  unfold World.loseLink loseLinkBy
  generalize (world.mesh.holdRouter id).loseLinkIn router.endpoints.values id link = after at *
  obtain ⟨still, told⟩ := closed.dispatchAll router.registry (after.1.events reason)
    (closed.goesOn world after.2 from_calm)
  have remaining :=
    Mesh.held_beyond held handles (congrArg (List.count id) told.routerHandles).ge
  have toldReach := told.reach reachLost
  have letting := Mesh.apart_letGoRouter remaining
  have quits := (lost.apart told.apart toldReach).apart letting (toldReach.next (.letGoRouter id))
  refine ⟨quits, ?_, closed.goesOn _ _ still⟩
  show id ∈ (Mesh.letGoRouter _ id).routerHandles
  rw [Mesh.letGoRouter_held remaining]
  exact remaining

/-- The calls carry out all the losses they are asked for, in this order. -/
theorem Calm.loseLinks (closed : Calm perform calm) {router : Router}
    (reach : Mesh.Reach False start) (atStart : start.router? id = some router)
    (run : Mesh.Losses False id start past world.mesh) (from_calm : calm world)
    (held : id ∈ world.mesh.routerHandles) (calls : List (Link × LossReason)) :
    Mesh.Losses False id start (past ++ (world.loseLinks perform id calls).1)
        (world.loseLinks perform id calls).2.mesh ∧
      (world.loseLinks perform id calls).1.map Prod.fst = calls.map Prod.fst := by
  induction calls generalizing world past with
  | nil =>
    refine ⟨?_, rfl⟩
    rw [World.loseLinks, List.append_nil]
    exact run
  | cons call rest ih =>
    obtain ⟨link, reason⟩ := call
    obtain ⟨reached, traced, _⟩ := run.traced reach atStart
    obtain ⟨endpoints, atId, _⟩ := traced.registry
    obtain ⟨once, stillHeld, stillCalm⟩ :=
      closed.loseLink from_calm run reached atId held link reason
    obtain ⟨final, links⟩ := ih once stillCalm stillHeld
    rw [List.append_assoc, List.singleton_append] at final
    unfold World.loseLinks
    rw [atId]
    exact ⟨final, congrArg (List.cons link) links⟩

end World

/-- When all links to a daemon are lost one by one, an endpoint falls just if the daemon was needed,
and with its last path to it; the order of the losses does not matter. -/
theorem daemon_departure {world : World} {id : Nat} {router : Router} {guid : Guid}
    {links : List Link} (reach : Mesh.Reach False world.mesh)
    (atId : world.mesh.router? id = some router)
    (departing : world.mesh.Departing router guid links) :
    (∀ losses after, Mesh.Losses False id world.mesh losses after →
      (losses.map Prod.fst).Perm links →
        Mesh.DepartureEffect world.mesh id router guid losses after) ∧
      (∀ losses after others other, Mesh.Losses False id world.mesh losses after →
        Mesh.Losses False id world.mesh others other → (losses.map Prod.fst).Perm links →
          (others.map Prod.fst).Perm links → after.Agrees other) ∧
      ∀ (perform : Performer) (calm : World → Prop), World.Calm perform calm → calm world →
        id ∈ world.mesh.routerHandles → ∀ calls : List (Link × LossReason),
          Mesh.Losses False id world.mesh (world.loseLinks perform id calls).1
              (world.loseLinks perform id calls).2.mesh ∧
            (world.loseLinks perform id calls).1.map Prod.fst = calls.map Prod.fst :=
  ⟨fun _ _ run permuted => run.departureEffect reach atId (departing.perm permuted),
    fun _ _ _ _ run another permuted alsoPermuted =>
      run.agrees another reach atId (departing.perm permuted) (departing.perm alsoPermuted),
    fun _ _ closed from_calm held calls => closed.loseLinks reach atId .start from_calm held calls⟩

namespace Mesh

def farLink : Link := ⟨2, ":c.1", .replicate 2⟩

/-- Behind the daemon at the other end of two links, and reached through a third daemon as well. -/
def nearEndpoint : Endpoint :=
  ⟨":b.5", .started, true,
    ⟨⟨[(⟨0⟩, [sampleLink, spareLink, farLink]), (⟨7⟩, [sampleLink])]⟩⟩, .firstAvailable⟩

def farEndpoint : Endpoint :=
  ⟨":c.6", .started, true, ⟨⟨[(⟨0⟩, [sampleLink, farLink]), (⟨9⟩, [farLink])]⟩⟩, .firstAvailable⟩

def triangleRouter : Router := ⟨⟨[(":b.5", 0), (":c.6", 1)]⟩, .firstAvailable, 0, .default⟩

/-- A daemon between two others, with two links to one of them. -/
def triangle : Mesh where
  links := [sampleLink, spareLink, farLink]
  counts := [1, 0, 1]
  overdrawn := []
  tables := []
  endpoints := [some nearEndpoint, some farEndpoint]
  endpointHandles := []
  routers := [some triangleRouter]
  routerHandles := [0]
  registries := [.empty]

theorem reach_triangle (handles : Prop) : Reach handles triangle := by
  have near : Reach handles _ := .next .start (.openLink ":b.1" (.replicate 1))
  have spare : Reach handles _ := .next near (.openLink ":b.2" (.replicate 1))
  have far : Reach handles _ := .next spare (.openLink ":c.1" (.replicate 2))
  have shared : Reach handles _ := .next far .newRegistry
  have made : Reach handles _ := .next shared (.newRouter .firstAvailable 0 .default)
  have held : Reach handles _ := .next made (.holdRouter 0)
  have opened : ∀ link ∈ [sampleLink, spareLink, farLink],
      link ∈ [sampleLink, spareLink, farLink] := fun _ member => member
  have first : Reach handles _ := .next held
    (@Move.reach _ _ 0 _ sampleLink rfl (opened _ (by decide)) ":b.5")
  have second : Reach handles _ := .next first
    (@Move.reach _ _ 0 _ spareLink rfl (opened _ (by decide)) ":b.5")
  have third : Reach handles _ := .next second
    (@Move.reach _ _ 0 _ farLink rfl (opened _ (by decide)) ":b.5")
  have fourth : Reach handles _ := .next third
    (@Move.reach _ _ 0 _ sampleLink rfl (opened _ (by decide)) ":c.6")
  have fifth : Reach handles _ := .next fourth
    (@Move.reach _ _ 0 _ farLink rfl (opened _ (by decide)) ":c.6")
  have bound : Reach handles _ := .next fifth
    (@Move.bindSession _ _ _ 0 0 _ _ ":b.5" ⟨7⟩ (some sampleLink) _ rfl rfl rfl)
  exact .next bound (@Move.bindSession _ _ _ 0 1 _ _ ":c.6" ⟨9⟩ (some farLink) _ rfl rfl rfl)

theorem departing_triangle :
    triangle.Departing triangleRouter (.replicate 1) [sampleLink, spareLink] where
  once := by decide
  paths link := by
    constructor
    · intro member
      have direct : link ∈ nearEndpoint.routes.candidates .direct ∧ link.guid = .replicate 1 := by
        rcases List.mem_pair.mp member with rfl | rfl <;> decide
      exact ⟨direct.2, ":b.5", 0, nearEndpoint, rfl, direct.1⟩
    · rintro ⟨leads, name, target, endpoint, present, direct⟩
      obtain ⟨found, there⟩ := lookup_eq_some.mp present
      have inFirst : link ∈ [sampleLink, spareLink, farLink] := by
        rcases List.mem_pair.mp (OrderedMap.mem_of_lookup found) with entry | entry
        · obtain ⟨rfl, rfl⟩ := Prod.mk.inj entry
          rw [← Option.some.inj there] at direct
          exact direct
        · obtain ⟨rfl, rfl⟩ := Prod.mk.inj entry
          rw [← Option.some.inj there] at direct
          have among : farEndpoint.routes.candidates .direct ⊆
              [sampleLink, spareLink, farLink] := by decide
          exact among direct
      simp only [List.mem_cons, List.not_mem_nil, or_false] at inFirst ⊢
      rcases inFirst with rfl | rfl | rfl
      · exact Or.inl rfl
      · exact Or.inr rfl
      · exact absurd leads (by decide)

end Mesh

/-- The endpoint behind the daemon falls with the second of the two links, the other one stays. -/
theorem daemon_departure_triangle :
    ∃ losses after, Mesh.DepartureEffect Mesh.triangle 0 Mesh.triangleRouter (.replicate 1) losses
        after ∧
      losses.map (fun loss => (loss.1, loss.2.retired)) =
        [(Mesh.spareLink, []), (Mesh.sampleLink, [":b.5"])] ∧
      after.endpoint? 0 = none ∧ after.endpoint? 1 = some
        ⟨":c.6", .started, true, ⟨⟨[(⟨0⟩, [Mesh.farLink]), (⟨9⟩, [Mesh.farLink])]⟩⟩,
          .firstAvailable⟩ := by
  have reach : Mesh.Reach False ({ World.empty with mesh := Mesh.triangle } : World).mesh :=
    Mesh.reach_triangle False
  have atId : Mesh.triangle.router? 0 = some Mesh.triangleRouter := rfl
  have laws := daemon_departure reach atId Mesh.departing_triangle
  obtain ⟨run, lost⟩ := laws.2.2 World.noScripts _ (World.calm_of_scriptless World.noScripts)
    (fun _ none => by cases none) List.mem_cons_self
    [(Mesh.spareLink, .linkTimeout), (Mesh.sampleLink, .linkTimeout)]
  have order : [Mesh.spareLink, Mesh.sampleLink].Perm [Mesh.sampleLink, Mesh.spareLink] :=
    List.Perm.swap ..
  rw [List.map_cons, List.map_cons, List.map_nil] at lost
  exact ⟨_, _, laws.1 _ _ run (lost ▸ order), rfl, rfl, rfl⟩

end DaemonMesh
