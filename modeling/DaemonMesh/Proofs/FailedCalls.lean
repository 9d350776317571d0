import DaemonMesh.Proofs.Refusals

namespace DaemonMesh

def RouterRequest.Sends : RouterRequest → Prop
  | .route _ _ => True
  | _ => False

/-- The name that a request to a router is for. -/
def RouterRequest.addressed : RouterRequest → Option String
  | .route name _ | .bind name _ _ | .unbind name _ => some name
  | _ => none

/-- What routers refuse: names that they do not have, before anything else is looked at, and what
the endpoint of the name refuses. -/
inductive Mesh.Refuses (mesh : Mesh) (router : Router) (linkNamed : String → Option Link) :
    RouterRequest → Failure → Prop
  | unknown {request : RouterRequest} {name : String} (addressed : request.addressed = some name)
      (missing : name ∉ router.names) :
      Refuses mesh router linkNamed request (.bus (.routing (.unknownDestination name)))
  | bind {name : String} {session : SessionId} {opts : Option SessionOpts} {id : Nat}
      {endpoint : Endpoint} {failure : Failure}
      (found : mesh.lookup router name = some (id, endpoint))
      (refuses : endpoint.Refuses linkNamed (.bindBest session opts) failure) :
      Refuses mesh router linkNamed (.bind name session opts) failure.fromRouter
  | unbind {name : String} {session : SessionId} {id : Nat} {endpoint : Endpoint}
      {failure : Failure} (found : mesh.lookup router name = some (id, endpoint))
      (refuses : endpoint.Refuses linkNamed (.unbind session) failure) :
      Refuses mesh router linkNamed (.unbind name session) failure.fromRouter

/-- What bare tables refuse: to bind or unbind session 0. -/
inductive RouteTable.Refuses (linkNamed : String → Option Link) : TableRequest → Failure → Prop
  | bind {label : String} {link : Link} (named : linkNamed label = some link) :
      Refuses linkNamed (.bind .direct label) (.contract .directSessionInTable)
  | unbind : Refuses linkNamed (.unbind .direct) (.contract .directSessionInTable)

theorem mapError_eq_error {ε δ α : Type} {change : ε → δ} {result : Except ε α} {failure : δ}
    (failed : result.mapError change = .error failure) :
    ∃ cause, result = .error cause ∧ failure = change cause := by
  cases result with
  | error cause => exact ⟨cause, rfl, (Except.error.inj failed).symm⟩
  | ok value => cases failed

theorem Failure.Undelivered.fromRouter {failure : Failure} (undelivered : failure.Undelivered) :
    failure.fromRouter.Undelivered := by
  unfold Failure.Undelivered at undelivered
  split at undelivered
  · trivial
  · trivial
  · exact undelivered.elim

namespace Mesh

variable {mesh : Mesh} {id : Nat} {router : Router} {name : String} {failure : Failure}

theorem Registered.lookup_eq_none_iff (registered : mesh.Registered)
    (atId : mesh.router? id = some router) :
    mesh.lookup router name = none ↔ name ∉ router.names := by
  have listed : name ∈ router.names ↔ (router.endpoints.find? name).isSome = true :=
    (registered.sorted id router atId).mem_keys_iff
  rw [listed]
  cases found : router.endpoints.find? name with
  | none =>
    unfold lookup
    rw [found]
    simp
  | some target =>
    obtain ⟨endpoint, present⟩ := registered.lookup_of_find atId found
    rw [present]
    simp

theorem Registered.lookupOrFail_eq (registered : mesh.Registered)
    (atId : mesh.router? id = some router) (name : String) :
    (name ∉ router.names ∧ mesh.lookupOrFail router name =
        .error (.bus (.routing (.unknownDestination name)))) ∨
      ∃ found, mesh.lookup router name = some found ∧
        mesh.lookupOrFail router name = .ok found := by
  rw [← registered.lookup_eq_none_iff atId]
  unfold lookupOrFail
  cases mesh.lookup router name with
  | none => exact Or.inl ⟨rfl, rfl⟩
  | some found => exact Or.inr ⟨found, rfl, rfl⟩

end Mesh

namespace World

variable {world : World} {perform : Performer} {label : String} {id : Nat} {router : Router}
  {failure : Failure}

/-- A router fails a request for a reason, unless it is that no link took the message. -/
theorem performRouter_refuses (registered : world.mesh.Registered)
    (present : world.routerAt label = some (id, router)) {request : RouterRequest} {name : String}
    (addressed : request.addressed = some name) (settled : request.Sends → ¬failure.Undelivered)
    (failed : (world.performRouter perform label request).1 = .failed failure) :
    world.mesh.Refuses router world.labels.links.find? request failure := by
  have found := registered.lookupOrFail_eq (routerAt_eq_some.mp present).2 name
  unfold performRouter at failed
  cases request with
  | route other message =>
    dsimp only at failed
    rw [withRouter_eq present] at failed
    rw [Option.some.inj addressed] at failed
    have failed := deliveryOutcome_failed failed
    unfold route at failed
    rcases found with ⟨missing, unknown⟩ | ⟨_, _, known⟩
    · rw [unknown] at failed
      rw [← Except.error.inj failed]
      exact .unknown addressed missing
    · rw [known] at failed
      obtain ⟨cause, undelivered, rfl⟩ := mapError_eq_error failed
      exact (settled trivial (send_undelivered undelivered).fromRouter).elim
  | bind other session opts =>
    dsimp only at failed
    rw [withRouter_eq present, Option.some.inj addressed] at failed
    rcases found with ⟨missing, unknown⟩ | ⟨⟨target, endpoint⟩, listed, known⟩
    · rw [unknown] at failed
      rw [← Outcome.failed.inj failed]
      exact .unknown addressed missing
    · rw [known] at failed
      obtain ⟨cause, refused, rfl⟩ := mapError_eq_error (choiceOutcome_failed failed)
      rw [← Option.some.inj addressed] at listed
      exact .bind listed (refuses_bindBest refused)
  | unbind other session =>
    dsimp only at failed
    rw [withRouter_eq present, Option.some.inj addressed] at failed
    have failed := flagOutcome_failed failed
    rcases found with ⟨missing, unknown⟩ | ⟨⟨target, endpoint⟩, listed, known⟩
    · rw [unknown] at failed
      rw [← Except.error.inj failed]
      exact .unknown addressed missing
    · rw [known] at failed
      obtain ⟨cause, refused, rfl⟩ := mapError_eq_error failed
      rw [← Option.some.inj addressed] at listed
      exact .unbind listed (refuses_unbind refused)
  | new | openQueue | add | get | lost | unreachable | info | drop => cases addressed

theorem performRouter_refused (registered : world.mesh.Registered)
    (present : world.routerAt label = some (id, router)) {request : RouterRequest} {name : String}
    (addressed : request.addressed = some name)
    (refuses : world.mesh.Refuses router world.labels.links.find? request failure) :
    (world.performRouter perform label request).1 = .failed failure ∧
      world.Unharmed (world.performRouter perform label request).2 := by
  have same := world.unharmed_noted world.trace
  cases refuses with
  | @unknown _ other also missing =>
    rw [Option.some.inj (also.symm.trans addressed)] at missing ⊢
    have unknown := ((registered.lookupOrFail_eq (routerAt_eq_some.mp present).2 name).resolve_right
      fun ⟨_, listed, _⟩ => by
        rw [(registered.lookup_eq_none_iff (routerAt_eq_some.mp present).2).mpr missing] at listed
        cases listed).2
    unfold performRouter
    cases request with
    | route named message =>
      dsimp only
      rw [withRouter_eq present, Option.some.inj addressed, route, unknown]
      exact ⟨rfl, same⟩
    | bind named session opts =>
      dsimp only
      rw [withRouter_eq present, Option.some.inj addressed, unknown]
      exact ⟨rfl, same⟩
    | unbind named session =>
      dsimp only
      rw [withRouter_eq present, Option.some.inj addressed, unknown]
      exact ⟨rfl, same⟩
    | new | openQueue | add | get | lost | unreachable | info | drop => cases addressed
  | @bind _ session opts target endpoint cause found refuses =>
    unfold performRouter
    dsimp only
    rw [withRouter_eq present, Mesh.lookupOrFail_of_lookup found]
    dsimp only
    rw [bindBest_refused refuses]
    exact ⟨rfl, world.unharmed_witnessSelection endpoint session opts⟩
  | @unbind _ session target endpoint cause found refuses =>
    have refused : world.mesh.unbind target endpoint session = .error cause :=
      unbind_refused refuses
    unfold performRouter
    dsimp only
    rw [withRouter_eq present, Mesh.lookupOrFail_of_lookup found]
    simp only [Bind.bind, Except.bind]
    rw [refused]
    exact ⟨rfl, same⟩

theorem performRouter_failsFor (registered : world.mesh.Registered) (perform : Performer)
    (present : world.routerAt label = some (id, router)) {request : RouterRequest} {name : String}
    (addressed : request.addressed = some name) :
    world.FailsFor request.Sends (world.mesh.Refuses router world.labels.links.find? request)
      (world.performRouter perform label request) :=
  failsFor_of
    (fun _ settled failed => performRouter_refuses registered present addressed settled failed)
    fun _ refuses => performRouter_refused registered present addressed refuses

theorem failed_withTable {go : Nat → RouteTable → Outcome × World} {goal : Prop}
    (goes : ∀ id table, (go id table).1 = .failed failure → goal)
    (failed : (world.withTable label go).1 = .failed failure) : goal := by
  unfold withTable at failed
  split at failed
  · cases failed
  · next id table _ => exact goes id table failed

/-- A table that has the direct paths under session 0 lets nobody bind or unbind that. -/
theorem performTable_refuses {request : TableRequest}
    (failed : (world.performTable label request).1 = .failed failure) :
    RouteTable.Refuses world.labels.links.find? request failure := by
  have zero {session : SessionId} (direct : session.isDirect = true) : session = .direct :=
    SessionId.isDirect_iff.mp direct
  have answered {answer : Answer} (failed : Outcome.answer answer = .failed failure) :
      RouteTable.Refuses world.labels.links.find? request failure :=
    Outcome.noConfusion failed
  revert failed
  cases request with
  | new direct =>
    cases direct with
    | none => exact answered
    | some other => exact failed_withLink fun _ _ => answered
  | bind session other =>
    refine failed_withTable fun id table => failed_withLink fun link named failed => ?_
    split at failed
    · next cause refused =>
      unfold Mesh.bindTable at refused
      split at refused
      · next direct =>
        rw [← Outcome.failed.inj failed, ← Except.error.inj refused, zero direct]
        exact .bind named
      · split at refused <;> cases refused
    · cases failed
  | unbind session =>
    refine failed_withTable fun id table failed => ?_
    split at failed
    · next cause refused =>
      unfold Mesh.unbindTable at refused
      split at refused
      · next direct =>
        rw [← Outcome.failed.inj failed, ← Except.error.inj refused, zero direct]
        exact .unbind
      · split at refused <;> cases refused
    · cases failed
  | insert | remove => exact failed_withTable fun _ _ => failed_withLink fun _ _ => answered
  | hasDirect | sessions => exact failed_withLink fun _ _ => failed_withTable fun _ _ => answered
  | drop | candidates | first | direct | reaches | routesWithout | hasNamed | links | info
  | select =>
    exact failed_withTable fun _ _ => answered

theorem performTable_failsFor {table : RouteTable}
    (present : world.tableAt label = some (id, table)) (request : TableRequest) :
    world.FailsFor False (RouteTable.Refuses world.labels.links.find? request)
      (world.performTable label request) := by
  have there (go : Nat → RouteTable → Outcome × World) :
      world.withTable label go = go id table := by
    unfold withTable
    rw [present]
  refine failsFor_of (fun failure _ failed => performTable_refuses failed) fun failure refuses => ?_
  have same := world.unharmed_noted world.trace
  unfold performTable
  cases refuses with
  | bind named =>
    dsimp only
    rw [there, withLink_eq named]
    exact ⟨rfl, same⟩
  | unbind =>
    dsimp only
    rw [there]
    exact ⟨rfl, same⟩

end World

/-- No endpoint's own reason is that a name is unknown. -/
theorem Mesh.refuses_unknown_iff {mesh : Mesh} {router : Router}
    {linkNamed : String → Option Link} {request : RouterRequest} {name : String}
    (addressed : request.addressed = some name) :
    mesh.Refuses router linkNamed request (.bus (.routing (.unknownDestination name))) ↔
      name ∉ router.names := by
  refine ⟨fun refuses => ?_, fun missing => .unknown addressed missing⟩
  generalize same : Failure.bus (.routing (.unknownDestination name)) = failure at refuses
  cases refuses with
  | unknown also missing => rwa [Option.some.inj (addressed.symm.trans also)]
  | bind found refuses => cases refuses <;> cases same
  | unbind found refuses => cases refuses; cases same

/-- Calls fail for their reasons only, a name that is not registered before any other, and a call
that fails has changed nothing: the endpoint, like everything else, is as good as before. -/
theorem failed_calls_change_nothing {handles : Prop} {world : World}
    (reach : Mesh.Reach handles world.mesh) (perform : Performer) (label : String) :
    (∀ id endpoint, world.endpointAt label = some (id, endpoint) → ∀ request,
      world.FailsFor request.Sends (endpoint.Refuses world.labels.links.find? request)
        (world.performEndpoint perform label request)) ∧
      (∀ id router, world.routerAt label = some (id, router) → ∀ request name,
        request.addressed = some name →
          world.FailsFor request.Sends
              (world.mesh.Refuses router world.labels.links.find? request)
              (world.performRouter perform label request) ∧
            ((world.performRouter perform label request).1 =
                .failed (.bus (.routing (.unknownDestination name))) ↔ name ∉ router.names)) ∧
      ∀ id table, world.tableAt label = some (id, table) → ∀ request,
        world.FailsFor False (RouteTable.Refuses world.labels.links.find? request)
          (world.performTable label request) := by
  refine ⟨fun id endpoint present request => World.performEndpoint_failsFor perform present request,
    fun id router present request name addressed => ?_,
    fun id table present request => World.performTable_failsFor present request⟩
  have fails := World.performRouter_failsFor reach.registered perform present addressed
  have reasons := fails.reasons (.bus (.routing (.unknownDestination name))) fun _ none => none
  exact ⟨fails, reasons.trans (Mesh.refuses_unknown_iff addressed)⟩

/-- The objects go by labels, and so does a link that is no path of the endpoint. -/
def World.labelled : World :=
  { World.empty with
    mesh := Mesh.twiceBound
    labels :=
      { Labels.empty with
        links := ⟨[("path", Mesh.sampleLink), ("stray", Mesh.spareLink)]⟩
        endpoints := ⟨[("e", 0)]⟩
        routers := ⟨[("r", 0)]⟩ } }

theorem failed_calls_change_nothing_labelled :
    (World.labelled.performEndpoint World.noScripts "e" (.bind ⟨9⟩ "stray")).1 =
        .failed (.routing (.noEndpoint ":b.5" ⟨9⟩)) ∧
      World.labelled.Unharmed
        (World.labelled.performEndpoint World.noScripts "e" (.bind ⟨9⟩ "stray")).2 ∧
      (World.labelled.performRouter World.noScripts "r" (.bind ":c.1" .direct none)).1 =
        .failed (.bus (.routing (.unknownDestination ":c.1"))) := by
  have reach : Mesh.Reach True World.labelled.mesh := Mesh.reach_twiceBound True
  have refuses : Mesh.sampleEndpoint.Refuses World.labelled.labels.links.find?
      (.bind ⟨9⟩ "stray") (.routing (.noEndpoint ":b.5" ⟨9⟩)) :=
    .bindStray (by decide) rfl (by decide)
  have fails := (failed_calls_change_nothing reach World.noScripts "e").1 0 _ rfl
    (.bind ⟨9⟩ "stray")
  have unknown := (failed_calls_change_nothing reach World.noScripts "r").2.1 0 _ rfl
    (.bind ":c.1" .direct none) ":c.1" rfl
  exact ⟨(fails.reasons _ fun sends => sends.elim).mpr refuses, fails.unharmed _ refuses,
    unknown.2.mpr (by decide)⟩

end DaemonMesh
