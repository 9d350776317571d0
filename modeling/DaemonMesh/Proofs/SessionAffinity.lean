import DaemonMesh.Proofs.RoutedRuns
import DaemonMesh.Proofs.ServedRequests

namespace DaemonMesh

/-- An unbinding takes a session off its link only with the last binding. -/
theorem RouteTable.Steady.rides_unbind {table next : RouteTable} {session other : SessionId}
    {link freed : Link} (steady : table.Steady) (nonzero : session ≠ .direct)
    (rides : link ∈ table.candidates session) (unbound : table.unbind? other = some (freed, next)) :
    link ∈ next.candidates session ∨ session = other ∧ table.candidates session = [link] := by
  obtain ⟨atOther, elsewhere⟩ := candidates_of_unbind? unbound
  by_cases same : session = other
  · subst same
    have only := steady session nonzero link rides
    rw [atOther] at only ⊢
    obtain rfl := only freed List.mem_cons_self
    cases rest : next.candidates session with
    | nil => exact Or.inr ⟨rfl, rfl⟩
    | cons first later =>
      rw [rest] at only
      rw [only first (List.mem_cons_of_mem _ List.mem_cons_self)]
      exact Or.inl List.mem_cons_self
  · rw [elsewhere session same]
    exact Or.inl rides

namespace Mesh

/-- A router has an endpoint registered, with the default selector, on which the session is bound to
the link. -/
def Carries (mesh : Mesh) (id : Nat) (name : String) (target : Nat) (session : SessionId)
    (link : Link) : Prop :=
  mesh.Registers id name target ∧ ∃ endpoint, mesh.endpoint? target = some endpoint ∧
    endpoint.selector = .firstAvailable ∧ link ∈ endpoint.routes.candidates session

/-- What a session's stay on its link ends with: its last binding is taken away, the link is lost to
the router, or the router itself goes. -/
inductive Ends (mesh next : Mesh) (id target : Nat) (session : SessionId) (link : Link) : Prop
  | unbound {endpoint : Endpoint} (there : mesh.endpoint? target = some endpoint)
      (last : endpoint.routes.candidates session = [link])
      (call : mesh.unbind target endpoint session = .ok (true, next))
  | lost {router : Router} {order : List Nat} (atId : mesh.router? id = some router)
      (visits : order.Perm router.endpoints.values)
      (loss : next = (mesh.loseLinkIn order id link).2)
  | gone (left : next.router? id = none)

/-- Runs in which nothing ends the session's stay on its link. -/
inductive Rides (start : Mesh) (id target : Nat) (session : SessionId) (link : Link) : Mesh → Prop
  | start : Rides start id target session link start
  | next {mesh after : Mesh} : Rides start id target session link mesh → mesh.Routes after →
      ¬mesh.Ends after id target session link → Rides start id target session link after

variable {mesh next start : Mesh} {id target : Nat} {name : String} {router : Router}
  {endpoint : Endpoint} {session : SessionId} {link : Link} {order : List Nat}

/-- With a link, the sessions reported lose all of their bindings, and the others keep all of theirs
together with the endpoint that they are bound on. -/
theorem Routed.loss (routed : Routed mesh) (atId : mesh.router? id = some router)
    (visits : order.Perm router.endpoints.values)
    (present : mesh.lookup router name = some (target, endpoint))
    (default : endpoint.selector = .firstAvailable) (nonzero : session ≠ .direct) (link : Link) :
    (∀ left, (mesh.loseLinkIn order id link).2.endpoint? target = some left →
      left.routes.candidates session =
        if (name, session) ∈ (mesh.loseLinkIn order id link).1.lost then []
        else endpoint.routes.candidates session) ∧
    ((name, session) ∉ (mesh.loseLinkIn order id link).1.lost →
      endpoint.routes.candidates session ≠ [] →
        (mesh.loseLinkIn order id link).2.Registers id name target) := by
  have effect := routed.reach.lossEffect atId visits link
  generalize mesh.loseLinkIn order id link = result at effect ⊢
  obtain ⟨report, after⟩ := result
  dsimp only at effect ⊢
  obtain ⟨found, there⟩ := lookup_eq_some.mp present
  have valid := (routed.reach.consistent there).valid
  have steady := routed.steady there default
  -- Reported is the session just if it rides on this link, so the two cases of the statement are
  -- whether it does.
  have lost : (name, session) ∈ report.lost ↔ link ∈ endpoint.routes.candidates session := by
    rw [effect.lost]
    constructor
    · rintro ⟨_, other, another, also, rides⟩
      obtain ⟨_, rfl⟩ := Prod.mk.inj (Option.some.inj (present.symm.trans also))
      exact rides
    · exact fun rides => ⟨nonzero, target, endpoint, present, rides⟩
  refine ⟨fun left stays => ?_, fun spared bound => ?_⟩
  · simp only [lost, ← steady.removed nonzero link]
    by_cases direct : link ∈ endpoint.routes.candidates .direct
    · rcases effect.kept name target endpoint present direct with ⟨other, same, kept⟩ | ⟨_, _, gone⟩
      · rw [Option.some.inj (stays.symm.trans same)]
        exact kept session
      · rw [gone] at stays
        cases stays
    · have spared := (effect.spared name target endpoint present direct).1
      rw [← Option.some.inj (spared.symm.trans stays)]
      have unbound : link ∉ endpoint.routes.candidates session :=
        fun rides => direct (valid.gate session link rides)
      rw [steady.removed nonzero link, if_neg unbound]
  · -- An endpoint that falls is left without bindings, but this one keeps the session's.
    have standing : name ∉ report.retired := by
      rw [effect.retired]
      rintro ⟨other, another, also, _, emptied⟩
      obtain ⟨_, rfl⟩ := Prod.mk.inj (Option.some.inj (present.symm.trans also))
      have drained := (valid.removeLink link).sessionLinks_of_leftEmpty emptied
      obtain ⟨bearer, rides⟩ := List.exists_mem_of_ne_nil _ bound
      have still : bearer ∈ (endpoint.routes.removeLink link).2.candidates session := by
        rw [RouteTable.candidates_removeLink valid.ascending, steady.removed nonzero link,
          if_neg (mt lost.mpr spared)]
        exact rides
      have held := (RouteTable.mem_sessionLinks_iff (valid.removeLink link).ascending).mpr
        ⟨session, nonzero, still⟩
      rw [drained] at held
      exact List.not_mem_nil held
    obtain ⟨endpoints, remains, entries⟩ := effect.registry
    exact ⟨_, remains, (entries name).trans ((if_neg standing).trans found)⟩

/-- The loss of another link leaves a session where it is. -/
theorem Carries.other_lost (carries : mesh.Carries id name target session link)
    (routed : Routed mesh) (nonzero : session ≠ .direct) (atId : mesh.router? id = some router)
    (visits : order.Perm router.endpoints.values) {other : Link} (different : other ≠ link) :
    (mesh.loseLinkIn order id other).2.Carries id name target session link := by
  obtain ⟨registers, endpoint, there, default, rides⟩ := carries
  have present := registers.lookup atId there
  have steady := routed.steady there default
  have effect := routed.reach.lossEffect atId visits other
  have spared : (name, session) ∉ (mesh.loseLinkIn order id other).1.lost := by
    rw [effect.lost]
    rintro ⟨_, _, another, also, bound⟩
    obtain ⟨_, rfl⟩ := Prod.mk.inj (Option.some.inj (present.symm.trans also))
    exact different (steady session nonzero link rides other bound)
  obtain ⟨kept, stands⟩ := routed.loss atId visits present default nonzero other
  have still := stands spared (List.ne_nil_of_mem rides)
  have known := (routed.reach.next (.loseLink atId visits other)).registered.known
  obtain ⟨current, atCurrent, found⟩ := still
  obtain ⟨left, stays, _, selector⟩ := known id current name target atCurrent found
  refine ⟨⟨current, atCurrent, found⟩, left, stays, ?_, ?_⟩
  · obtain ⟨endpoints, remains, _⟩ := effect.registry
    obtain ⟨before, also, _, chosen⟩ :=
      routed.reach.registered.known id router name target atId (lookup_eq_some.mp present).1
    rw [selector, ← Option.some.inj (remains.symm.trans atCurrent)]
    exact chosen.symm.trans ((congrArg Endpoint.selector
      (Option.some.inj (also.symm.trans there))).trans default)
  · rw [kept left stays, if_neg spared]
    exact rides

/-- A session stays on its link through all that does not end its stay. -/
theorem Routes.carries (routes : mesh.Routes next) (routed : Routed mesh)
    (nonzero : session ≠ .direct) (carries : mesh.Carries id name target session link)
    (goesOn : ¬mesh.Ends next id target session link) :
    next.Carries id name target session link := by
  have move := routes.move
  have reach := routed.reach
  have lost {router : Router} {order : List Nat} {other : Link}
      (atId : mesh.router? id = some router) (visits : order.Perm router.endpoints.values)
      (loss : next = (mesh.loseLinkIn order id other).2) :
      next.Carries id name target session link := by
    by_cases same : other = link
    · exact (goesOn (.lost atId visits (same ▸ loss))).elim
    · rw [loss]
      exact carries.other_lost routed nonzero atId visits same
  obtain ⟨registers, endpoint, there, default, rides⟩ := carries
  have stays : next.router? id ≠ none := fun left => goesOn (.gone left)
  -- The move finds the endpoint registered. If it is not afterwards, a loss has retired it.
  by_cases still : next.Registers id name target
  · cases move.touch reach registers there stays with
    | spared same => exact ⟨still, endpoint, same, default, rides⟩
    | widened taken now =>
      obtain ⟨_, rfl⟩ := Endpoint.tryAddLink_some taken
      refine ⟨still, _, now, default, ?_⟩
      rw [RouteTable.candidates_insertDirect _ _ nonzero]
      exact rides
    | @bound other bearer after taken now =>
      obtain ⟨_, _, rfl⟩ := Endpoint.bind_ok taken
      refine ⟨still, _, now, default, ?_⟩
      rw [RouteTable.candidates_append]
      split
      · next same => exact List.mem_append_left _ (same ▸ rides)
      · exact rides
    | @unbound other freed after call released now =>
      obtain ⟨_, routes, taken, rfl⟩ := Endpoint.unbind_ok released
      rcases (routed.steady there default).rides_unbind nonzero rides taken with
        left | ⟨rfl, last⟩
      · exact ⟨still, _, now, default, left⟩
      · exact (goesOn (.unbound there last call)).elim
    | lost atId visits loss => exact lost atId visits loss
  · obtain ⟨router, order, other, _, atId, visits, loss, _⟩ :=
      (move.leaves_iff reach registers stays).mp still
    exact lost atId visits loss

/-- What ends a session's stay on its link does so. -/
theorem Ends.not_carries (ends : mesh.Ends next id target session link) (routed : Routed mesh) :
    ¬next.Carries id name target session link := by
  rintro ⟨⟨router, atId, found⟩, left, there, default, rides⟩
  cases ends with
  | @unbound endpoint before last call =>
    rcases unbind_ok call with ⟨unbound, _⟩ | ⟨_, freed, after, released, rfl⟩
    · cases unbound
    · obtain ⟨_, routes, taken, rfl⟩ := Endpoint.unbind_ok released
      have slot := endpoint?_setEndpoint_self before { endpoint with routes }
      have still := (endpoint?_releaseAll _ [freed] target).trans slot
      rw [← Option.some.inj (still.symm.trans there)] at rides
      rw [(RouteTable.candidates_of_unbind? taken).1] at last
      rw [(List.cons.inj last).2] at rides
      exact List.not_mem_nil rides
  | @lost before order atBefore visits loss =>
    have effect := routed.reach.lossEffect atBefore visits link
    subst loss
    exact effect.cleared router name target left atId (lookup_eq_some.mpr ⟨found, there⟩) session
      rides
  | gone left =>
    rw [left] at atId
    cases atId

theorem Rides.carries (rides : Rides start id target session link mesh) (routed : Routed start)
    (nonzero : session ≠ .direct) (carries : start.Carries id name target session link) :
    Routed mesh ∧ mesh.Carries id name target session link := by
  induction rides with
  | start => exact ⟨routed, carries⟩
  | next _ routes goesOn ih =>
    exact ⟨ih.1.next routes, routes.carries ih.1 nonzero ih.2 goesOn⟩

theorem bindChosen_of_ok (mesh : Mesh) (target : Nat) {choice : Option Link} {after : Endpoint}
    (taken : endpoint.bindChosen session choice = .ok (link, after)) :
    mesh.bindChosen target endpoint session choice =
      .ok (link, (mesh.setEndpoint target after).acquire link) := by
  unfold bindChosen
  rw [taken]
  rfl

end Mesh

namespace World

variable {world : World} {id target : Nat} {name : String} {router : Router} {endpoint : Endpoint}
  {session : SessionId} {link : Link}

/-- A binding through a router puts the session on the link chosen. -/
theorem routes_bindBest (atId : world.mesh.router? id = some router)
    (present : world.mesh.lookup router name = some (target, endpoint))
    (opts : Option SessionOpts)
    (bound : (world.bindBest target endpoint session opts).1 = .ok link) :
    session ≠ .direct ∧ world.mesh.Routes (world.bindBest target endpoint session opts).2.mesh ∧
      (endpoint.selector = .firstAvailable →
        (world.bindBest target endpoint session opts).2.mesh.Carries id name target session
          link) := by
  rcases world.bindBest_cases target endpoint session opts with
    ⟨failure, _, result⟩ | ⟨chosen, after, taken, result⟩
  · rw [result] at bound
    cases bound
  · rw [result] at bound ⊢
    obtain rfl := Except.ok.inj bound
    obtain ⟨found, there⟩ := Mesh.lookup_eq_some.mp present
    obtain ⟨nonzero, _, shape⟩ := Endpoint.bind_ok (Endpoint.bindChosen_ok taken).2
    have call := world.mesh.bindChosen_of_ok target taken
    refine ⟨nonzero, .bind opts world.labels.links.find? atId present call, fun default => ?_⟩
    have slot := Mesh.endpoint?_setEndpoint_self there after
    refine ⟨⟨router, atId, found⟩, after, slot, ?_⟩
    rw [shape]
    refine ⟨default, ?_⟩
    simp

/-- What becomes of messages in a session that is bound to one link. Each is tried on this link
alone, and if it is refused, once for every binding. -/
structure Sticks (world : World) (id : Nat) (router : Router) (name : String) (target : Nat)
    (endpoint : Endpoint) (session : SessionId) (link : Link) (count : Nat) : Prop where
  atId : world.mesh.router? id = some router
  present : world.mesh.lookup router name = some (target, endpoint)
  bound : endpoint.routes.candidates session = List.replicate count link
  positive : 0 < count
  tried : ∀ (perform : Performer) (message : Message), message.session = session →
    ∃ offers sent after,
      deliver (noting (push perform)) message (List.replicate count link) 0
          ((world.withMesh (world.mesh.holdRouter id)).withMesh
            ((world.mesh.holdRouter id).holdEndpoint target), []) = (sent, after, offers) ∧
        (∀ offer ∈ offers, offer.link = link) ∧
        Offered (List.replicate count link) message
          (Failure.bus (.routing (.noRoute name session count))) offers
          (world.route perform id router name message).1

theorem sticks_of_carries (routed : Mesh.Routed world.mesh) (nonzero : session ≠ .direct)
    (carries : world.mesh.Carries id name target session link) :
    ∃ router endpoint count, world.Sticks id router name target endpoint session link count := by
  obtain ⟨⟨router, atId, found⟩, endpoint, there, default, rides⟩ := carries
  obtain ⟨other, also, named, _⟩ :=
    routed.reach.registered.known id router name target atId found
  rw [← Option.some.inj (there.symm.trans also)] at named
  have present := Mesh.lookup_eq_some.mpr ⟨found, there⟩
  have bound : endpoint.routes.candidates session =
      List.replicate (endpoint.routes.candidates session).length link :=
    List.eq_replicate_iff.mpr ⟨rfl, routed.steady there default session nonzero link rides⟩
  refine ⟨router, endpoint, _, atId, present, bound, List.length_pos_of_mem rides, ?_⟩
  rintro perform message rfl
  obtain ⟨offers, sent, after, noted, offered, sends⟩ :=
    (world.withMesh (world.mesh.holdRouter id)).send_offered perform target endpoint message
      message.session
  rw [← bound]
  refine ⟨offers, sent, after, noted, fun offer member => ?_, ?_⟩
  · have listed := offered.inOrder.subset (List.mem_map_of_mem member)
    exact routed.steady there default message.session nonzero link rides _ listed
  · unfold route
    rw [Mesh.lookupOrFail_of_lookup present]
    dsimp only
    rw [sends, ← named]
    exact offered.mapError Failure.fromRouter

end World

/-- As long as endpoints change through routers only, the default selector keeps every session on
one link: from a binding on, until its last binding is taken away or that link is lost, all messages
of the session are tried on this link and no other. -/
theorem session_affinity {world : World} (routed : Mesh.Routed world.mesh) :
    (∀ id name target endpoint, world.mesh.Registers id name target →
      world.mesh.endpoint? target = some endpoint → endpoint.selector = .firstAvailable →
        ∀ session ≠ .direct, ∀ link ∈ endpoint.routes.candidates session,
          ∀ other ∈ endpoint.routes.candidates session, other = link) ∧
    (∀ id router name target endpoint session opts link,
      world.mesh.router? id = some router →
        world.mesh.lookup router name = some (target, endpoint) →
          endpoint.selector = .firstAvailable →
            (world.bindBest target endpoint session opts).1 = .ok link → ∀ later : World,
              Mesh.Rides (world.bindBest target endpoint session opts).2.mesh id target session
                  link later.mesh →
                ∃ router endpoint count,
                  later.Sticks id router name target endpoint session link count) ∧
    (∀ next, world.mesh.Routes next → ∀ id name target session link, session ≠ .direct →
      world.mesh.Carries id name target session link →
        (next.Carries id name target session link ↔
          ¬world.mesh.Ends next id target session link)) ∧
    ∀ id router order link, world.mesh.router? id = some router →
      order.Perm router.endpoints.values →
        ∀ report next, world.mesh.loseLinkIn order id link = (report, next) →
          ∀ name target endpoint, world.mesh.lookup router name = some (target, endpoint) →
            endpoint.selector = .firstAvailable → ∀ session ≠ .direct,
              (∀ left, next.endpoint? target = some left →
                left.routes.candidates session = if (name, session) ∈ report.lost then []
                  else endpoint.routes.candidates session) ∧
              ((name, session) ∉ report.lost → endpoint.routes.candidates session ≠ [] →
                next.Registers id name target) := by
  refine ⟨fun _ _ _ _ _ there default => routed.steady there default, ?_, ?_, ?_⟩
  · intro id router name target endpoint session opts link atId present default bound later rides
    obtain ⟨nonzero, routes, carried⟩ := World.routes_bindBest atId present opts bound
    obtain ⟨after, carries⟩ := rides.carries (routed.next routes) nonzero (carried default)
    exact World.sticks_of_carries after nonzero carries
  · intro next routes id name target session link nonzero carries
    exact ⟨fun still ends => ends.not_carries routed still,
      routes.carries routed nonzero carries⟩
  · intro id router order link atId visits report next result name target endpoint present default
      session nonzero
    have loss := routed.loss atId visits present default nonzero link
    rw [result] at loss
    exact loss

namespace World

/-- A daemon with two links, of which only the first leads to an endpoint; its receiving end is
gone. -/
def oneWay : World where
  mesh :=
    { Mesh.empty with
      links := [Mesh.sampleLink, Mesh.spareLink]
      counts := [0, 0]
      endpoints := [some (.reachedBy ":b.5" Mesh.sampleLink .firstAvailable)]
      routers := [some Mesh.sampleRouter]
      routerHandles := [0]
      registries := [.empty] }
  carriers := [.queue (Queue.opened 4).close, .queue (.opened 4)]
  subscribers := []
  labels := .empty
  trace := []

theorem routed_oneWay : Mesh.Routed oneWay.mesh := by
  have aside {mesh next : Mesh} (routed : Mesh.Routed mesh) (move : Mesh.Move False mesh next)
      (same : next.endpoints = mesh.endpoints) : Mesh.Routed next :=
    routed.next (.other move (Mesh.evolves_of_endpoints same))
  have first := aside .start (.openLink ":b.1" (.replicate 1)) rfl
  have second := aside first (.openLink ":b.2" (.replicate 1)) rfl
  have shared := aside second .newRegistry rfl
  have made := aside shared (.newRouter .firstAvailable 0 .default) rfl
  have held := aside made (.holdRouter 0) rfl
  have known : Mesh.sampleLink ∈ [Mesh.sampleLink, Mesh.spareLink] := List.mem_cons_self
  have reached : Mesh.Routed _ :=
    held.next (.other (@Mesh.Move.reach _ _ 0 _ Mesh.sampleLink rfl known ":b.5")
      (Mesh.evolves_reach _ _ _ _ _))
  exact reached

def boundOnce : World :=
  (oneWay.bindBest 0 (.reachedBy ":b.5" Mesh.sampleLink .firstAvailable) ⟨7⟩ none).2

def widened : World :=
  boundOnce.withMesh (boundOnce.mesh.reach 0 Mesh.sampleRouter ":b.5" Mesh.spareLink).2

/-- The session is bound once more after the other link was put on. -/
def boundAgain : World :=
  (widened.bindBest 0
    ⟨":b.5", .started, true,
      ⟨⟨[(⟨0⟩, [Mesh.sampleLink, Mesh.spareLink]), (⟨7⟩, [Mesh.sampleLink])]⟩⟩, .firstAvailable⟩
    ⟨7⟩ none).2

end World

theorem session_affinity_boundAgain : ∃ router endpoint count,
    World.boundAgain.Sticks 0 router ":b.5" 0 endpoint ⟨7⟩ Mesh.sampleLink count ∧ count = 2 ∧
      endpoint.routes.directLinks = [Mesh.sampleLink, Mesh.spareLink] ∧
      (World.boundAgain.route World.noScripts 0 router ":b.5"
        ((Message.methodCall 1 ":a.1" ":b.5" "Ping").withSession ⟨7⟩)).1 =
          .error (.bus (.routing (.noRoute ":b.5" ⟨7⟩ 2))) := by
  have routed := World.routed_oneWay
  have atId : World.oneWay.mesh.router? 0 = some Mesh.sampleRouter := rfl
  have present : World.oneWay.mesh.lookup Mesh.sampleRouter ":b.5" =
      some (0, .reachedBy ":b.5" Mesh.sampleLink .firstAvailable) := rfl
  have bound : (World.oneWay.bindBest 0 (.reachedBy ":b.5" Mesh.sampleLink .firstAvailable) ⟨7⟩
      none).1 = .ok Mesh.sampleLink := rfl
  obtain ⟨_, binds, _⟩ := World.routes_bindBest atId present none bound
  have widens : World.boundOnce.mesh.Routes World.widened.mesh :=
    .other (@Mesh.Move.reach _ World.boundOnce.mesh 0 Mesh.sampleRouter Mesh.spareLink rfl
      (by decide) ":b.5") (Mesh.evolves_reach _ _ _ _ _)
  obtain ⟨_, again, _⟩ := @World.routes_bindBest World.widened 0 0 ":b.5" Mesh.sampleRouter _ ⟨7⟩
    Mesh.sampleLink rfl rfl none rfl
  have once := routed.next binds
  have wide := once.next widens
  have carried : World.widened.mesh.Carries 0 ":b.5" 0 ⟨7⟩ Mesh.sampleLink :=
    ⟨⟨_, rfl, rfl⟩, _, rfl, rfl, by decide⟩
  have carriedAgain : World.boundAgain.mesh.Carries 0 ":b.5" 0 ⟨7⟩ Mesh.sampleLink :=
    ⟨⟨_, rfl, rfl⟩, _, rfl, rfl, by decide⟩
  have rides : Mesh.Rides World.boundOnce.mesh 0 0 ⟨7⟩ Mesh.sampleLink World.boundAgain.mesh :=
    .next (.next .start widens fun ends => ends.not_carries once carried) again
      fun ends => ends.not_carries wide carriedAgain
  obtain ⟨router, endpoint, count, sticks⟩ :=
    (session_affinity routed).2.1 0 _ ":b.5" 0 _ ⟨7⟩ none _ atId present rfl bound
      World.boundAgain rides
  have same : router = Mesh.sampleRouter := (Option.some.inj sticks.atId).symm
  subst same
  have there := (Prod.mk.inj (Option.some.inj sticks.present)).2
  subst there
  have counted : 2 = (List.replicate count Mesh.sampleLink).length :=
    congrArg List.length sticks.bound
  rw [List.length_replicate] at counted
  exact ⟨_, _, count, sticks, counted.symm, rfl, rfl⟩

end DaemonMesh
