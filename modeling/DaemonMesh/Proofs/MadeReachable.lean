import DaemonMesh.Proofs.FailedCalls
import DaemonMesh.Proofs.LossFates
import DaemonMesh.Proofs.ServedNames

namespace DaemonMesh

/-- All entries stay in their order; a new path comes last. -/
theorem RouteTable.insertDirect_entries (table : RouteTable) (link : Link) (session : SessionId) :
    (table.insertDirect link).2.candidates session = table.candidates session ++
      if session = .direct ∧ link ∉ table.candidates .direct then [link] else [] := by
  unfold insertDirect
  split
  · next direct =>
    have present : link ∈ table.candidates .direct := hasDirect_iff.mp direct
    simp [present]
  · next absent =>
    have missing : link ∉ table.candidates .direct :=
      fun direct => absent (hasDirect_iff.mpr direct)
    by_cases here : session = .direct <;> simp [here, missing]

theorem RouteTable.insertDirect_again {table : RouteTable} {link : Link}
    (direct : link ∈ table.directLinks) : table.insertDirect link = (false, table) :=
  if_pos (hasDirect_iff.mpr direct)

namespace Mesh

/-- Where a name leads once it was made reachable through a link, and what that leaves alone. -/
structure ReachFrame (mesh : Mesh) (id : Nat) (router : Router) (name : String) (link : Link)
    (target : Nat) (after : Mesh) : Prop where
  registry : ∃ endpoints, after.router? id = some { router with endpoints } ∧ ∀ other,
    endpoints.find? other = if other = name then some target else router.endpoints.find? other
  elsewhere : ∀ other, other ≠ id → after.router? other = mesh.router? other
  serves : ∃ endpoint, after.endpoint? target = some endpoint ∧ endpoint.name = name ∧
    endpoint.state = .started ∧ (endpoint.routes.candidates .direct).count link = 1
  outside : ∀ number, number ≠ target → (∀ old endpoint,
    mesh.lookup router name = some (old, endpoint) → number ≠ old) →
      after.endpoint? number = mesh.endpoint? number
  tables : after.tables = mesh.tables
  endpointHandles : after.endpointHandles = mesh.endpointHandles
  registries : after.registries = mesh.registries

/-- What it does to make a name reachable through a link, in terms of the state before. -/
structure ReachEffect (mesh : Mesh) (id : Nat) (router : Router) (name : String) (link : Link)
    (target : Nat) (after : Mesh) : Prop extends ReachFrame mesh id router name link target after
    where
  /-- A started endpoint stays, and gets the link as its last path unless it has it. -/
  reused : ∀ old endpoint, mesh.lookup router name = some (old, endpoint) →
    endpoint.state = .started → target = old ∧ ∃ routes,
      after.endpoint? target = some { endpoint with routes } ∧ ∀ session,
        routes.candidates session = endpoint.routes.candidates session ++
          if session = .direct ∧ link ∉ endpoint.routes.candidates .direct then [link] else []
  /-- Otherwise the endpoint is one that has never been before. -/
  fresh : (∀ old endpoint, mesh.lookup router name = some (old, endpoint) →
    endpoint.state = .stopping) → target = mesh.endpoints.length ∧ ∃ routes,
      after.endpoint? target = some ⟨name, .started, false, routes, router.selector⟩ ∧
        ∀ session, routes.candidates session = if session = .direct then [link] else []
  /-- A replaced endpoint lives on, just as it was, with those who have a handle on it. -/
  replaced : ∀ old endpoint, mesh.lookup router name = some (old, endpoint) →
    endpoint.state = .stopping →
      after.endpoint? old = if old ∈ mesh.endpointHandles then some endpoint else none
  freed : ∀ old endpoint, mesh.lookup router name = some (old, endpoint) →
    endpoint.state = .stopping → old ∉ mesh.endpointHandles → ∀ other : Link, mesh.count other =
      after.count other + endpoint.routes.sessionLinks.countP fun bound =>
        bound.number == other.number
  counts : (∀ old endpoint, mesh.lookup router name = some (old, endpoint) →
    endpoint.state = .stopping → old ∈ mesh.endpointHandles) →
      ∀ other : Link, after.count other = mesh.count other
  spared : ∀ other otherName number, ¬(other = id ∧ otherName = name) →
    mesh.Registers other otherName number → after.Registers other otherName number ∧
      after.endpoint? number = mesh.endpoint? number
  again : ∀ current, after.router? id = some current →
    after.reach id current name link = (target, after)

variable {mesh after : Mesh} {id target old : Nat} {router : Router} {name : String}
  {endpoint : Endpoint} {link : Link}

/-- A stopping endpoint takes no path, so it is replaced. -/
theorem reach_stopping (present : mesh.lookup router name = some (old, endpoint))
    (stopping : endpoint.state = .stopping) (id : Nat) (link : Link) :
    mesh.reach id router name link = (mesh.endpoints.length,
      (mesh.register id router name link).2.discardUnheld old) := by
  have refused : endpoint.tryAddLink link = none := by
    unfold Endpoint.tryAddLink Endpoint.isStopping
    rw [stopping]
    rfl
  unfold reach
  rw [present]
  dsimp only
  rw [refused]
  rfl

/-- Whoever has the link already is left alone. -/
theorem reach_again (present : mesh.lookup router name = some (target, endpoint))
    (started : endpoint.state = .started) (direct : link ∈ endpoint.routes.directLinks) (id : Nat) :
    mesh.reach id router name link = (target, mesh) := by
  have there := (lookup_eq_some.mp present).2
  obtain ⟨added, next, taken, reached⟩ := reach_started present started id link
  have same : next = endpoint := by
    unfold Endpoint.tryAddLink at taken
    split at taken
    · cases taken
    · rw [RouteTable.insertDirect_again direct] at taken
      exact (Prod.mk.inj (Option.some.inj taken)).2.symm
  obtain ⟨within, atTarget⟩ := List.getElem?_eq_some_iff.mp (endpoint?_eq_some.mp there)
  rw [reached, same, setEndpoint, ← atTarget, List.set_getElem_self]

/-- An endpoint that goes gives back the references of its sessions. -/
theorem Accounted.count_dropEndpoint (accounted : mesh.Accounted)
    (there : mesh.endpoint? target = some endpoint) (other : Link) : mesh.count other =
      ({ mesh with endpoints := mesh.endpoints.set target none }.releaseAll
        endpoint.routes.sessionLinks).count other +
          endpoint.routes.sessionLinks.countP fun bound => bound.number == other.number := by
  have dropped := accounted.dropEndpoint there
  obtain ⟨counts, overdrawn, frame, _⟩ := releaseAll_frame
    { mesh with endpoints := mesh.endpoints.set target none } endpoint.routes.sessionLinks
  have perm : mesh.bindings.Perm (({ mesh with
      endpoints := mesh.endpoints.set target none }.releaseAll
        endpoint.routes.sessionLinks).bindings ++ endpoint.routes.sessionLinks) := by
    refine List.perm_iff_count.mpr fun bound => ?_
    have change := count_bindings_endpoints there none bound
    rw [List.count_append, frame]
    exact change.symm
  rw [accounted.balance.counted, dropped.balance.counted, perm.countP_eq, List.countP_append]

/-- A replaced endpoint stands nowhere else, so only handles can hold it. -/
theorem Registered.unheld_register (registered : mesh.Registered)
    (atId : mesh.router? id = some router)
    (present : mesh.lookup router name = some (old, endpoint))
    (unheld : old ∉ mesh.endpointHandles) (link : Link) :
    (mesh.register id router name link).2.isHeld old = false := by
  obtain ⟨found, there⟩ := lookup_eq_some.mp present
  refine isHeld_eq_false unheld fun other current atOther member => ?_
  have sorted := (registered.register atId name link).sorted other current atOther
  obtain ⟨otherName, foundOther⟩ := sorted.mem_values_iff.mp member
  rcases register_origin atId atOther foundOther with ⟨_, _, new, _⟩ | ⟨before, was, _, foundBefore⟩
  · exact Nat.lt_irrefl _ (new ▸ endpoint?_lt there)
  · have here := registered.single id name old other otherName ⟨router, atId, found⟩
      ⟨before, was, foundBefore⟩
    subst here
    obtain ⟨_, alive, named, _⟩ := registered.known other router name old atId found
    obtain ⟨_, alsoAlive, alsoNamed, _⟩ :=
      registered.known other before otherName old was foundBefore
    rw [Option.some.inj (alive.symm.trans alsoAlive), alsoNamed] at named
    rw [router?_register atId, if_pos rfl] at atOther
    rw [← Option.some.inj atOther, named, OrderedMap.find?_insert_self] at foundOther
    exact Nat.lt_irrefl _ (Option.some.inj foundOther ▸ endpoint?_lt there)

theorem endpoint?_register_other {number : Nat} (id : Nat) (router : Router) (name : String)
    (link : Link) (different : number ≠ mesh.endpoints.length) :
    (mesh.register id router name link).2.endpoint? number = mesh.endpoint? number := by
  show (mesh.endpoints ++ [some (.reachedBy name link router.selector)])[number]?.join = _
  rcases Nat.lt_or_gt_of_ne different with below | beyond
  · rw [List.getElem?_append_left below, endpoint?]
  · rw [List.getElem?_eq_none, endpoint?, List.getElem?_eq_none (Nat.le_of_lt beyond)]
    rw [List.length_append, List.length_singleton]
    exact beyond

/-- Where no started endpoint stands, a fresh one is registered, and nothing else changes but the
endpoint that it replaces. -/
theorem reach_replaces (unstarted : ∀ old endpoint,
      mesh.lookup router name = some (old, endpoint) → endpoint.state = .stopping)
    (id : Nat) (link : Link) : ∃ endpoints counts overdrawn,
      mesh.reach id router name link = (mesh.endpoints.length,
        { (mesh.register id router name link).2 with endpoints, counts, overdrawn }) ∧
      ∀ number, (∀ old endpoint, mesh.lookup router name = some (old, endpoint) → number ≠ old) →
        endpoints[number]?.join = (mesh.register id router name link).2.endpoint? number := by
  cases present : mesh.lookup router name with
  | none =>
    refine ⟨(mesh.register id router name link).2.endpoints, mesh.counts, mesh.overdrawn, ?_,
      fun number _ => rfl⟩
    unfold reach
    rw [present]
    rfl
  | some found =>
    obtain ⟨old, endpoint⟩ := found
    have there := endpoint?_register_old id router name link (lookup_eq_some.mp present).2
    obtain ⟨slot, counts, overdrawn, _, frame⟩ := discardUnheld_frame there
    refine ⟨(mesh.register id router name link).2.endpoints.set old slot, counts, overdrawn, ?_,
      fun number apart => ?_⟩
    · rw [reach_stopping present (unstarted old endpoint present), frame]
    · exact (join_getElem?_set (Or.inr (endpoint?_lt there))).trans
        (if_neg (apart old endpoint rfl))

/-- Endpoints registered under different names or on different routers are different. -/
theorem Registered.apart (registered : mesh.Registered) {other number : Nat} {otherName : String}
    (registers : mesh.Registers id name target)
    (alsoRegisters : mesh.Registers other otherName number)
    (different : ¬(other = id ∧ otherName = name)) : number ≠ target := by
  rintro rfl
  refine different ⟨registered.single id name number other otherName registers alsoRegisters, ?_⟩
  obtain ⟨router, atId, found⟩ := registers
  obtain ⟨current, atOther, foundOther⟩ := alsoRegisters
  obtain ⟨_, there, named, _⟩ := registered.known id router name number atId found
  obtain ⟨_, alsoThere, alsoNamed, _⟩ :=
    registered.known other current otherName number atOther foundOther
  rw [← named, ← alsoNamed, Option.some.inj (there.symm.trans alsoThere)]

namespace ReachFrame

variable (frame : ReachFrame mesh id router name link target after)
include frame

theorem spared (registered : mesh.Registered) (atId : mesh.router? id = some router)
    (known : router.endpoints.find? name = some target ∨ target = mesh.endpoints.length)
    (other : Nat) (otherName : String) (number : Nat)
    (different : ¬(other = id ∧ otherName = name))
    (registers : mesh.Registers other otherName number) :
    after.Registers other otherName number ∧ after.endpoint? number = mesh.endpoint? number := by
  have ⟨current, atOther, found⟩ := registers
  have kept : after.Registers other otherName number := by
    by_cases here : other = id
    · subst here
      obtain ⟨endpoints, atAfter, entries⟩ := frame.registry
      refine ⟨_, atAfter, ?_⟩
      rw [← Option.some.inj (atId.symm.trans atOther)] at found
      exact (entries otherName).trans ((if_neg fun same => different ⟨rfl, same⟩).trans found)
    · exact ⟨current, (frame.elsewhere other here).trans atOther, found⟩
  refine ⟨kept, frame.outside number ?_ fun old endpoint present => ?_⟩
  · rcases known with listed | new
    · exact registered.apart ⟨router, atId, listed⟩ registers different
    · obtain ⟨_, there, _⟩ := registered.known other current otherName number atOther found
      exact new ▸ (endpoint?_lt there).ne
  · exact registered.apart ⟨router, atId, (lookup_eq_some.mp present).1⟩ registers different

theorem again (current : Router) (atAfter : after.router? id = some current) :
    after.reach id current name link = (target, after) := by
  obtain ⟨endpoints, remains, entries⟩ := frame.registry
  obtain ⟨endpoint, there, _, started, once⟩ := frame.serves
  have found : current.endpoints.find? name = some target := by
    rw [← Option.some.inj (remains.symm.trans atAfter)]
    exact (entries name).trans (if_pos rfl)
  have direct : link ∈ endpoint.routes.directLinks :=
    List.count_pos_iff.mp (once ▸ Nat.one_pos)
  exact reach_again (lookup_eq_some.mpr ⟨found, there⟩) started direct id

end ReachFrame

section Registering

variable {endpoints : List (Option Endpoint)} (slots : ∀ number,
  (∀ old endpoint, mesh.lookup router name = some (old, endpoint) → number ≠ old) →
    endpoints[number]?.join = (mesh.register id router name link).2.endpoint? number)
include slots

theorem fresh_register : endpoints[mesh.endpoints.length]?.join =
    some (.reachedBy name link router.selector) := by
  have unused (old : Nat) (endpoint : Endpoint)
      (present : mesh.lookup router name = some (old, endpoint)) : mesh.endpoints.length ≠ old :=
    (endpoint?_lt (lookup_eq_some.mp present).2).ne'
  exact (slots _ unused).trans (endpoint?_register ..)

theorem reachFrame_register (atId : mesh.router? id = some router) (counts : List Nat)
    (overdrawn : List Link) :
    ReachFrame mesh id router name link mesh.endpoints.length
      { (mesh.register id router name link).2 with endpoints, counts, overdrawn } where
  registry := by
    refine ⟨_, (router?_register atId name link id).trans (if_pos rfl), fun other => ?_⟩
    by_cases here : other = name <;> simp [here]
  elsewhere other different := (router?_register atId name link other).trans (if_neg different)
  serves := by
    refine ⟨_, fresh_register slots, rfl, rfl, ?_⟩
    show ((RouteTable.withDirect link).candidates .direct).count link = 1
    simp
  outside number different apart :=
    (slots number apart).trans (endpoint?_register_other id router name link different)
  tables := rfl
  endpointHandles := rfl
  registries := rfl

end Registering

variable {handles : Prop} (reach : Reach handles mesh) (atId : mesh.router? id = some router)
include reach atId

theorem Reach.reachFrame_started (present : mesh.lookup router name = some (old, endpoint))
    (started : endpoint.state = .started) (link : Link) :
    ReachFrame mesh id router name link old
      (mesh.setEndpoint old { endpoint with routes := (endpoint.routes.insertDirect link).2 }) := by
  obtain ⟨found, there⟩ := lookup_eq_some.mp present
  have slots := endpoint?_setEndpoint there
    { endpoint with routes := (endpoint.routes.insertDirect link).2 }
  exact {
    registry := by
      refine ⟨router.endpoints, atId, fun other => ?_⟩
      split
      · next here => rw [here, found]
      · rfl
    elsewhere := fun _ _ => rfl
    serves := by
      obtain ⟨another, alsoThere, named, _⟩ := reach.registered.known id router name old atId found
      rw [← Option.some.inj (there.symm.trans alsoThere)] at named
      have valid := (reach.accounted.valid_of_lookup present).insertDirect link
      refine ⟨_, (slots old).trans (if_pos rfl), named, started, ?_⟩
      refine List.count_eq_one_of_mem valid.distinct ?_
      rw [endpoint.routes.insertDirect_entries]
      by_cases direct : link ∈ endpoint.routes.candidates .direct
      · exact List.mem_append_left _ direct
      · rw [if_pos ⟨rfl, direct⟩]
        exact List.mem_append_right _ (List.mem_singleton_self _)
    outside := fun number different _ => (slots number).trans (if_neg different)
    tables := rfl
    endpointHandles := rfl
    registries := rfl }

theorem Reach.reachEffect_started (present : mesh.lookup router name = some (old, endpoint))
    (started : endpoint.state = .started) (link : Link) :
    ReachEffect mesh id router name link (mesh.reach id router name link).1
      (mesh.reach id router name link).2 := by
  obtain ⟨found, there⟩ := lookup_eq_some.mp present
  obtain ⟨added, next, taken, reached⟩ := reach_started present started id link
  obtain ⟨_, rfl⟩ := Endpoint.tryAddLink_some taken
  have same {other : Nat} {another : Endpoint}
      (alsoPresent : mesh.lookup router name = some (other, another)) :
      other = old ∧ another = endpoint := by
    rw [present] at alsoPresent
    obtain ⟨rfl, rfl⟩ := Prod.mk.inj (Option.some.inj alsoPresent)
    exact ⟨rfl, rfl⟩
  have unstopped {other : Nat} {another : Endpoint}
      (alsoPresent : mesh.lookup router name = some (other, another))
      (stopping : another.state = .stopping) : False := by
    rw [(same alsoPresent).2, started] at stopping
    cases stopping
  have frame := reach.reachFrame_started atId present started link
  rw [reached]
  exact {
    frame with
    reused := fun other another alsoPresent _ => by
      obtain ⟨rfl, rfl⟩ := same alsoPresent
      exact ⟨rfl, _, endpoint?_setEndpoint_self there _,
        another.routes.insertDirect_entries link⟩
    fresh := fun stopping => (unstopped present (stopping old endpoint present)).elim
    replaced := fun _ _ alsoPresent stopping => (unstopped alsoPresent stopping).elim
    freed := fun _ _ alsoPresent stopping => (unstopped alsoPresent stopping).elim
    counts := fun _ _ => rfl
    spared := frame.spared reach.registered atId (Or.inl found)
    again := frame.again }

/-- A replaced endpoint goes if nobody has a handle on it, and gives back its references. -/
theorem Reach.reach_frees (present : mesh.lookup router name = some (old, endpoint))
    (stopping : endpoint.state = .stopping) (opened : link ∈ mesh.links) :
    (mesh.reach id router name link).2.endpoint? old =
        (if old ∈ mesh.endpointHandles then some endpoint else none) ∧
      (old ∉ mesh.endpointHandles → ∀ other : Link, mesh.count other =
        (mesh.reach id router name link).2.count other +
          endpoint.routes.sessionLinks.countP fun bound => bound.number == other.number) ∧
      (old ∈ mesh.endpointHandles →
        ∀ other : Link, (mesh.reach id router name link).2.count other = mesh.count other) := by
  have there := endpoint?_register_old id router name link (lookup_eq_some.mp present).2
  rw [reach_stopping present stopping]
  by_cases held : old ∈ mesh.endpointHandles
  · have holds : (mesh.register id router name link).2.isHeld old = true := by
      have handled : (mesh.register id router name link).2.endpointHandles.contains old = true :=
        List.contains_iff_mem.mpr held
      rw [isHeld, handled, Bool.true_or]
    rw [if_pos held, discardUnheld, if_pos holds]
    exact ⟨there, fun unheld => (unheld held).elim, fun _ _ => rfl⟩
  · have unheld := reach.registered.unheld_register atId present held link
    rw [if_neg held]
    refine ⟨discardUnheld_gone unheld, fun _ other => ?_, fun handled => (held handled).elim⟩
    have made : (mesh.register id router name link).2.Accounted :=
      (Change.register trivial atId opened name).accounted reach.accounted
    have discarded : (mesh.register id router name link).2.discardUnheld old =
        { (mesh.register id router name link).2 with
          endpoints := (mesh.register id router name link).2.endpoints.set old none }.releaseAll
            endpoint.routes.sessionLinks := by
      rw [discardUnheld, unheld, there]
      rfl
    rw [discarded]
    exact made.count_dropEndpoint there other

theorem Reach.reachEffect_unstarted (unstarted : ∀ old endpoint,
      mesh.lookup router name = some (old, endpoint) → endpoint.state = .stopping)
    (opened : link ∈ mesh.links) :
    ReachEffect mesh id router name link (mesh.reach id router name link).1
      (mesh.reach id router name link).2 := by
  have running (old : Nat) (endpoint : Endpoint)
      (present : mesh.lookup router name = some (old, endpoint))
      (started : endpoint.state = .started) : False := by
    rw [unstarted old endpoint present] at started
    cases started
  have frees := fun old endpoint present =>
    reach.reach_frees atId present (unstarted old endpoint present) opened
  have untouched (missing : mesh.lookup router name = none) (other : Link) :
      (mesh.reach id router name link).2.count other = mesh.count other := by
    unfold Mesh.reach
    rw [missing]
    rfl
  obtain ⟨endpoints, counts, overdrawn, reached, slots⟩ := reach_replaces unstarted id link
  have frame := reachFrame_register slots atId counts overdrawn
  rw [reached] at frees untouched ⊢
  exact {
    frame with
    reused := fun old endpoint present started => (running old endpoint present started).elim
    fresh := fun _ => ⟨rfl, _, fresh_register slots, RouteTable.candidates_withDirect link⟩
    replaced := fun old endpoint present _ => (frees old endpoint present).1
    freed := fun old endpoint present _ => (frees old endpoint present).2.1
    counts := fun held other => by
      cases present : mesh.lookup router name with
      | none => exact untouched present other
      | some found =>
        exact (frees found.1 found.2 present).2.2
          (held _ _ present (unstarted _ _ present)) other
    spared := frame.spared reach.registered atId (Or.inr rfl)
    again := frame.again }

theorem Reach.reachEffect (opened : link ∈ mesh.links) (name : String) :
    ReachEffect mesh id router name link (mesh.reach id router name link).1
      (mesh.reach id router name link).2 := by
  by_cases runs : ∃ old endpoint, mesh.lookup router name = some (old, endpoint) ∧
      endpoint.state = .started
  · obtain ⟨old, endpoint, present, started⟩ := runs
    exact reach.reachEffect_started atId present started link
  · refine reach.reachEffect_unstarted atId (fun old endpoint present => ?_) opened
    cases state : endpoint.state with
    | started => exact (runs ⟨old, endpoint, present, state⟩).elim
    | stopping => rfl

end Mesh

/-- Whatever stands under a name, be it a started endpoint, a stopping one or none, a router that
makes the name reachable has a started endpoint over the link there. Nothing else changes but what
a replaced endpoint leaves behind. -/
theorem name_made_reachable {handles : Prop} :
    (∀ (mesh : Mesh) (id : Nat) (router : Router) (name : String) (link : Link),
      Mesh.Reach handles mesh → mesh.router? id = some router → link ∈ mesh.links →
        Mesh.ReachEffect mesh id router name link (mesh.reach id router name link).1
          (mesh.reach id router name link).2) ∧
      ∀ (world : World) (perform : Performer) (label other name : String) (keepAs : Option String)
          (id : Nat) (router : Router) (link : Link), World.Run handles world →
        world.routerAt label = some (id, router) → world.labels.links.find? other = some link →
          ∃ target after endpoint, Mesh.ReachEffect world.mesh id router name link target after ∧
            after.endpoint? target = some endpoint ∧
              world.performStep perform (.router label (.add name other keepAs)) =
                (.answer (.number endpoint.routes.size),
                  (world.withMesh after).keep target keepAs) := by
  refine ⟨fun mesh id router name link reach atId opened => reach.reachEffect atId opened name, ?_⟩
  intro world perform label other name keepAs id router link run present named
  have effect := run.sound.reached.reachEffect (World.routerAt_eq_some.mp present).2
    (run.sound.labelled other link named) name
  obtain ⟨endpoint, there, _⟩ := effect.serves
  refine ⟨_, _, endpoint, effect, there, ?_⟩
  show world.performRouter perform label (.add name other keepAs) = _
  unfold World.performRouter
  dsimp only
  rw [World.withRouter_eq present, World.withLink_eq named, there]
  rfl

namespace Mesh

/-- A path around the daemon behind the first link. -/
def detour : Link := ⟨1, ":c.1", .replicate 2⟩

def lateEndpoint : Endpoint :=
  ⟨":b.5", .stopping, true, ⟨⟨[(⟨0⟩, [detour]), (⟨9⟩, [detour, detour])]⟩⟩, .firstAvailable⟩

/-- The first link was taken from the endpoint behind the router's back, which stopped it. The
router goes on to bind a session to the path that is left. -/
def lateBound : Mesh where
  links := [sampleLink, detour]
  counts := [0, 2]
  overdrawn := []
  tables := []
  endpoints := [some lateEndpoint]
  endpointHandles := []
  routers := [some sampleRouter]
  routerHandles := [0]
  registries := [.empty]

theorem reach_lateBound : Reach True lateBound := by
  have near : Reach True _ := .next .start (.openLink ":b.1" (.replicate 1))
  have far : Reach True _ := .next near (.openLink ":c.1" (.replicate 2))
  have shared : Reach True _ := .next far .newRegistry
  have made : Reach True _ := .next shared (.newRouter .firstAvailable 0 .default)
  have held : Reach True _ := .next made (.holdRouter 0)
  have opened : ∀ link ∈ [sampleLink, detour], link ∈ [sampleLink, detour] := fun _ member => member
  have first : Reach True _ := .next held
    (@Move.reach _ _ 0 _ sampleLink rfl (opened _ (by decide)) ":b.5")
  have second : Reach True _ := .next first
    (@Move.reach _ _ 0 _ detour rfl (opened _ (by decide)) ":b.5")
  have bound : Reach True _ := .next second
    (@Move.bindSession _ _ _ 0 0 _ _ ":b.5" ⟨7⟩ (some sampleLink) _ rfl rfl rfl)
  have stopped : Reach True _ := .next bound (@Move.removeLink _ _ 0 _ trivial rfl sampleLink)
  have once : Reach True _ := .next stopped
    (@Move.bindSession _ _ _ 0 0 _ _ ":b.5" ⟨9⟩ (some detour) _ rfl rfl rfl)
  exact .next once (@Move.bindSession _ _ _ 0 0 _ _ ":b.5" ⟨9⟩ (some detour) _ rfl rfl rfl)

end Mesh

/-- The late session's references go with the endpoint, since nobody has a handle on it. -/
theorem name_made_reachable_lateBound : ∃ target after,
    Mesh.ReachEffect Mesh.lateBound 0 Mesh.sampleRouter ":b.5" Mesh.sampleLink target after ∧
      target = 1 ∧ Mesh.lateBound.counts = [0, 2] ∧ after.counts = [0, 0] ∧
      after.endpoints = [none, some ⟨":b.5", .started, false,
        ⟨⟨[(⟨0⟩, [Mesh.sampleLink])]⟩⟩, .firstAvailable⟩] := by
  have known : Mesh.sampleLink ∈ Mesh.lateBound.links := List.mem_cons_self
  have effect := name_made_reachable.1 Mesh.lateBound 0 Mesh.sampleRouter ":b.5" Mesh.sampleLink
    Mesh.reach_lateBound rfl known
  exact ⟨_, _, effect, rfl, rfl, rfl, rfl⟩

end DaemonMesh
