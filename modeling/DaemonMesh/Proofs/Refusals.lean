import DaemonMesh.Proofs.ServedRequests

namespace DaemonMesh

/-- Requests that hand a message over, so that links have a say in how they end. -/
def EndpointRequest.Sends : EndpointRequest → Prop
  | .push _ | .pushTo _ _ => True
  | _ => False

/-- All links that a message was offered to have refused it. -/
def Failure.Undelivered : Failure → Prop
  | .routing (.noRoute ..) | .bus (.routing (.noRoute ..)) => True
  | _ => False

/-- What endpoints refuse, and how: session 0, bindings to anything but a direct path, and links for
one that is stopping. -/
inductive Endpoint.Refuses (endpoint : Endpoint) (linkNamed : String → Option Link) :
    EndpointRequest → Failure → Prop
  | addLink {label : String} {link : Link} (named : linkNamed label = some link)
      (stopping : endpoint.state = .stopping) :
      Refuses endpoint linkNamed (.addLink label) (.contract (.linkToStopping endpoint.name))
  | bindDirect {label : String} {link : Link} (named : linkNamed label = some link) :
      Refuses endpoint linkNamed (.bind .direct label) (.contract (.directSession endpoint.name))
  | bindStray {session : SessionId} {label : String} {link : Link} (nonzero : session ≠ .direct)
      (named : linkNamed label = some link) (stray : link ∉ endpoint.routes.directLinks) :
      Refuses endpoint linkNamed (.bind session label)
        (.routing (.noEndpoint endpoint.name session))
  | bindBestDirect (opts : Option SessionOpts) :
      Refuses endpoint linkNamed (.bindBest .direct opts)
        (.contract (.directSession endpoint.name))
  | bindBestStray {session : SessionId} {opts : Option SessionOpts} (nonzero : session ≠ .direct)
      (stray : ∀ link, endpoint.selector.choose ⟨endpoint.routes, session, opts, linkNamed⟩ =
        some link → link ∉ endpoint.routes.directLinks) :
      Refuses endpoint linkNamed (.bindBest session opts)
        (.routing (.noEndpoint endpoint.name session))
  | unbindDirect :
      Refuses endpoint linkNamed (.unbind .direct) (.contract (.directSession endpoint.name))

namespace Endpoint

variable {endpoint : Endpoint} {session : SessionId} {link : Link} {failure : Failure}

theorem addLink_error_iff : endpoint.addLink link = .error failure ↔
    endpoint.state = .stopping ∧ failure = .contract (.linkToStopping endpoint.name) := by
  unfold addLink tryAddLink isStopping
  cases endpoint.state with
  | started => simp
  | stopping =>
    simp only [beq_self_eq_true, if_true, true_and, Except.error.injEq]
    exact eq_comm

theorem bind_zero (endpoint : Endpoint) (link : Link) :
    endpoint.bind .direct link = .error (.contract (.directSession endpoint.name)) := rfl

theorem bindChosen_zero (endpoint : Endpoint) (choice : Option Link) :
    endpoint.bindChosen .direct choice = .error (.contract (.directSession endpoint.name)) := rfl

theorem unbind_zero (endpoint : Endpoint) :
    endpoint.unbind .direct = .error (.contract (.directSession endpoint.name)) := rfl

theorem bind_error_iff : endpoint.bind session link = .error failure ↔
    (session = .direct ∧ failure = .contract (.directSession endpoint.name)) ∨
      session ≠ .direct ∧ link ∉ endpoint.routes.directLinks ∧
        failure = .routing (.noEndpoint endpoint.name session) := by
  by_cases zero : session = .direct
  · subst zero
    simp [bind_zero, eq_comm]
  · by_cases direct : link ∈ endpoint.routes.directLinks
    · simp [bind_direct zero direct, zero, direct]
    · simp [bind_stray zero direct, zero, direct, eq_comm]

/-- A best binding is refused for session 0, and else just if nothing or nothing direct was chosen.
-/
theorem bindChosen_error_iff {choice : Option Link} :
    endpoint.bindChosen session choice = .error failure ↔
      (session = .direct ∧ failure = .contract (.directSession endpoint.name)) ∨
        session ≠ .direct ∧ (∀ link, choice = some link → link ∉ endpoint.routes.directLinks) ∧
          failure = .routing (.noEndpoint endpoint.name session) := by
  by_cases zero : session = .direct
  · subst zero
    simp [bindChosen_zero, eq_comm]
  · cases choice with
    | none => simp [bindChosen_none zero, zero, eq_comm]
    | some link =>
      by_cases direct : link ∈ endpoint.routes.directLinks
      · simp [bindChosen_direct zero direct, zero, direct]
      · simp [bindChosen_stray zero direct, zero, direct, eq_comm]

theorem unbind_error_iff : endpoint.unbind session = .error failure ↔
    session = .direct ∧ failure = .contract (.directSession endpoint.name) := by
  by_cases zero : session = .direct
  · subst zero
    simp [unbind_zero, eq_comm]
  · simp [unbind, zero]

end Endpoint

namespace Mesh

variable {mesh : Mesh} {id : Nat} {endpoint : Endpoint} {session : SessionId} {link : Link}
  {failure : Failure}

theorem addLink_error_iff :
    mesh.addLink id endpoint link = .error failure ↔ endpoint.addLink link = .error failure := by
  unfold addLink
  cases endpoint.addLink link <;> simp [Bind.bind, Except.bind]

theorem bind_error_iff : mesh.bind id endpoint session link = .error failure ↔
    endpoint.bind session link = .error failure := by
  unfold bind
  cases endpoint.bind session link <;> simp [Bind.bind, Except.bind]

theorem unbind_error_iff : mesh.unbind id endpoint session = .error failure ↔
    endpoint.unbind session = .error failure := by
  unfold unbind
  rcases endpoint.unbind session with _ | _ | _ <;> simp [Bind.bind, Except.bind]

end Mesh

namespace World

variable {world : World} {perform : Performer} {label : String} {id : Nat} {endpoint : Endpoint}
  {failure : Failure} {goal : Prop}

/-- Nothing but notes has come to the world, and no endpoint answers otherwise for them. -/
structure Unharmed (world after : World) : Prop where
  state : after = { world with trace := after.trace }
  usable : ∀ (perform : Performer) (label : String) (request : EndpointRequest), ¬request.Sends →
    (after.performEndpoint perform label request).1 =
      (world.performEndpoint perform label request).1

/-- Labels are looked up in the same way whatever was witnessed before. -/
theorem withLink_noted {go other : Link → Outcome × World} (trace : List TraceEntry)
    (same : ∀ link, (go link).1 = (other link).1) :
    (({ world with trace } : World).withLink label go).1 = (world.withLink label other).1 := by
  unfold withLink
  cases world.labels.links.find? label with
  | none => rfl
  | some link => exact same link

theorem withEndpoint_noted {go other : Nat → Endpoint → Outcome × World} (trace : List TraceEntry)
    (same : ∀ id endpoint, (go id endpoint).1 = (other id endpoint).1) :
    (({ world with trace } : World).withEndpoint label go).1 =
      (world.withEndpoint label other).1 := by
  unfold withEndpoint
  have present : ({ world with trace } : World).endpointAt label = world.endpointAt label := rfl
  rw [present]
  cases world.endpointAt label with
  | none => rfl
  | some found => exact same found.1 found.2

/-- The answer depends on the result alone, not on the world it is given in. -/
theorem flagOutcome_fst (other : World) (result : Except Failure (Bool × Mesh)) :
    (other.flagOutcome result).1 = (world.flagOutcome result).1 := by
  cases result <;> rfl

/-- What a best binding answers is what the endpoint answers when it is asked for the link that the
selector picks. -/
theorem bindBest_fst (world : World) (id : Nat) (endpoint : Endpoint) (session : SessionId)
    (opts : Option SessionOpts) :
    (world.bindBest id endpoint session opts).1 =
      (endpoint.bindChosen session (endpoint.selector.choose
        ⟨endpoint.routes, session, opts, world.labels.links.find?⟩)).map Prod.fst := by
  rcases world.bindBest_cases id endpoint session opts with
    ⟨failure, result, served⟩ | ⟨link, after, result, served⟩ <;> rw [result, served] <;> rfl

/-- No label changes on the way, so links are named afterwards as they were before. -/
theorem labels_bindBest (world : World) (id : Nat) (endpoint : Endpoint) (session : SessionId)
    (opts : Option SessionOpts) :
    (world.bindBest id endpoint session opts).2.labels = world.labels := by
  have witnessed : (world.witnessSelection endpoint session opts).labels = world.labels := by
    unfold witnessSelection
    split
    · rfl
    · split <;> rfl
  rcases world.bindBest_cases id endpoint session opts with
    ⟨_, _, served⟩ | ⟨_, _, _, served⟩ <;> rw [served] <;> exact witnessed

theorem choiceOutcome_congr {other : World} (labels : other.labels = world.labels)
    (result : Except Failure Link) : other.choiceOutcome result = world.choiceOutcome result := by
  unfold choiceOutcome labelOf
  rw [labels]

/-- An answer never depends on what was witnessed, except where messages are handed over and links
have a say. -/
theorem performEndpoint_noted (trace : List TraceEntry) {request : EndpointRequest}
    (quiet : ¬request.Sends) :
    (({ world with trace } : World).performEndpoint perform label request).1 =
      (world.performEndpoint perform label request).1 := by
  cases request with
  | push | pushTo => exact (quiet trivial).elim
  | new => exact withLink_noted trace fun _ => rfl
  | drop => exact withEndpoint_noted trace fun _ _ => rfl
  | addLink | removeLink =>
    exact withEndpoint_noted trace fun _ _ => withLink_noted trace fun _ => flagOutcome_fst ..
  | bind session other =>
    refine withEndpoint_noted trace fun id endpoint => withLink_noted trace fun link => ?_
    dsimp only
    split <;> rfl
  | bindBest session opts =>
    refine withEndpoint_noted trace fun id endpoint => ?_
    have same := (({ world with trace } : World).bindBest_fst id endpoint session opts).trans
      (world.bindBest_fst id endpoint session opts).symm
    have labels := (({ world with trace } : World).labels_bindBest id endpoint session opts).trans
      (world.labels_bindBest id endpoint session opts).symm
    dsimp only
    rw [same]
    exact choiceOutcome_congr labels _
  | unbind => exact withEndpoint_noted trace fun _ _ => flagOutcome_fst ..
  | canUse | sessions =>
    exact withLink_noted trace fun _ => withEndpoint_noted trace fun _ _ => rfl
  | resolve | reachWithout | hasAny | info => exact withEndpoint_noted trace fun _ _ => rfl
  | same => exact withEndpoint_noted trace fun _ _ => withEndpoint_noted trace fun _ _ => rfl

/-- The trace is all that may differ. -/
theorem unharmed_noted (world : World) (trace : List TraceEntry) :
    world.Unharmed { world with trace } :=
  ⟨rfl, fun _ _ _ quiet => performEndpoint_noted trace quiet⟩

/-- Being asked leaves no more than a trace. -/
theorem unharmed_witnessSelection (world : World) (endpoint : Endpoint) (session : SessionId)
    (opts : Option SessionOpts) :
    world.Unharmed (world.witnessSelection endpoint session opts) := by
  unfold witnessSelection
  split
  · exact unharmed_noted world world.trace
  · split
    · exact unharmed_noted world world.trace
    · exact unharmed_noted world _

/-- A label that stands for a live endpoint leads on to it. -/
theorem withEndpoint_eq {go : Nat → Endpoint → Outcome × World}
    (present : world.endpointAt label = some (id, endpoint)) :
    world.withEndpoint label go = go id endpoint := by
  unfold withEndpoint
  rw [present]

/-- A label that stands for a link leads on to it. -/
theorem withLink_eq {link : Link} {go : Link → Outcome × World}
    (named : world.labels.links.find? label = some link) : world.withLink label go = go link := by
  unfold withLink
  rw [named]

/-- A label without an endpoint is malformed rather than failed, so a failure comes from the
endpoint. -/
theorem failed_withEndpoint {go : Nat → Endpoint → Outcome × World}
    (goes : ∀ id endpoint, world.endpointAt label = some (id, endpoint) →
      (go id endpoint).1 = .failed failure → goal)
    (failed : (world.withEndpoint label go).1 = .failed failure) : goal := by
  unfold withEndpoint at failed
  split at failed
  · cases failed
  · next id endpoint present => exact goes id endpoint present failed

/-- In the same way a failure is never due to the label of a link. -/
theorem failed_withLink {go : Link → Outcome × World}
    (goes : ∀ link, world.labels.links.find? label = some link →
      (go link).1 = .failed failure → goal)
    (failed : (world.withLink label go).1 = .failed failure) : goal := by
  unfold withLink at failed
  split at failed
  · cases failed
  · next link named => exact goes link named failed

/-- Nothing is turned into a failure that was none. -/
theorem flagOutcome_failed {result : Except Failure (Bool × Mesh)}
    (failed : (world.flagOutcome result).1 = .failed failure) : result = .error failure := by
  cases result with
  | error other => exact congrArg Except.error (Outcome.failed.inj failed)
  | ok done => cases failed

theorem choiceOutcome_failed {result : Except Failure Link}
    (failed : world.choiceOutcome result = .failed failure) : result = .error failure := by
  cases result with
  | error other => exact congrArg Except.error (Outcome.failed.inj failed)
  | ok done => cases failed

theorem deliveryOutcome_failed {result : Except Failure Delivery}
    (failed : world.deliveryOutcome result = .failed failure) : result = .error failure := by
  cases result with
  | error other => exact congrArg Except.error (Outcome.failed.inj failed)
  | ok done => cases failed

/-- A message that is handed over fails for want of a link that takes it, and for no other reason.
-/
theorem send_undelivered {message : Message} {session : SessionId}
    (failed : (world.send perform id endpoint message session).1 = .error failure) :
    failure.Undelivered := by
  unfold send at failed
  dsimp only at failed
  split at failed
  · cases failed
  · rw [← Except.error.inj failed]
    trivial

/-- From the failure back to its reason: session 0, or a choice that is no direct path. -/
theorem refuses_bindBest {session : SessionId} {opts : Option SessionOpts}
    (failed : (world.bindBest id endpoint session opts).1 = .error failure) :
    endpoint.Refuses world.labels.links.find? (.bindBest session opts) failure := by
  rcases world.bindBest_cases id endpoint session opts with
    ⟨other, refused, served⟩ | ⟨link, after, _, served⟩
  · rw [served] at failed
    rw [Except.error.inj failed] at refused
    rcases Endpoint.bindChosen_error_iff.mp refused with ⟨rfl, rfl⟩ | ⟨nonzero, stray, rfl⟩
    · exact .bindBestDirect opts
    · exact .bindBestStray nonzero stray
  · rw [served] at failed
    cases failed

/-- Only session 0 is refused; a session without bindings is told that there was nothing to take
away. -/
theorem refuses_unbind {mesh : Mesh} {session : SessionId} {linkNamed : String → Option Link}
    (failed : mesh.unbind id endpoint session = .error failure) :
    endpoint.Refuses linkNamed (.unbind session) failure := by
  obtain ⟨rfl, rfl⟩ := Endpoint.unbind_error_iff.mp (Mesh.unbind_error_iff.mp failed)
  exact .unbindDirect

/-- An endpoint fails a request for a reason, unless it is that no link took the message. -/
theorem performEndpoint_refuses (present : world.endpointAt label = some (id, endpoint))
    {request : EndpointRequest} (settled : request.Sends → ¬failure.Undelivered)
    (failed : (world.performEndpoint perform label request).1 = .failed failure) :
    endpoint.Refuses world.labels.links.find? request failure := by
  have here {go : Nat → Endpoint → Outcome × World} {goal : Prop}
      (goes : (go id endpoint).1 = .failed failure → goal)
      (failed : (world.withEndpoint label go).1 = .failed failure) : goal := by
    rw [withEndpoint_eq present] at failed
    exact goes failed
  revert failed
  cases request with
  | new => exact failed_withLink fun _ _ => nofun
  | drop => exact here nofun
  | push | pushTo =>
    refine here fun failed => (settled trivial ?_).elim
    exact send_undelivered (deliveryOutcome_failed failed)
  | addLink other =>
    refine here (failed_withLink fun link named failed => ?_)
    obtain ⟨stopping, rfl⟩ := Endpoint.addLink_error_iff.mp
      (Mesh.addLink_error_iff.mp (flagOutcome_failed failed))
    exact .addLink named stopping
  | removeLink => exact here (failed_withLink fun _ _ failed => nomatch flagOutcome_failed failed)
  | bind session other =>
    refine here (failed_withLink fun link named failed => ?_)
    have refused : endpoint.bind session link = .error failure := by
      split at failed
      · next other result =>
        rw [← Outcome.failed.inj failed]
        exact Mesh.bind_error_iff.mp result
      · cases failed
    rcases Endpoint.bind_error_iff.mp refused with ⟨rfl, rfl⟩ | ⟨nonzero, stray, rfl⟩
    · exact .bindDirect named
    · exact .bindStray nonzero named stray
  | bindBest => exact here fun failed => refuses_bindBest (choiceOutcome_failed failed)
  | unbind => exact here fun failed => refuses_unbind (flagOutcome_failed failed)
  | canUse | sessions => exact failed_withLink fun _ _ => here nofun
  | resolve | reachWithout | hasAny | info => exact here nofun
  | same => exact here (failed_withEndpoint fun _ _ _ => nofun)

/-- And from the reason to the failure, with a world in which nothing but the asking is noted. -/
theorem bindBest_refused {session : SessionId} {opts : Option SessionOpts}
    (refuses : endpoint.Refuses world.labels.links.find? (.bindBest session opts) failure) :
    world.bindBest id endpoint session opts =
      (.error failure, world.witnessSelection endpoint session opts) := by
  have refused : endpoint.bindChosen session (endpoint.selector.choose
      ⟨endpoint.routes, session, opts, world.labels.links.find?⟩) = .error failure := by
    rw [Endpoint.bindChosen_error_iff]
    cases refuses with
    | bindBestDirect => exact Or.inl ⟨rfl, rfl⟩
    | bindBestStray nonzero stray => exact Or.inr ⟨nonzero, stray, rfl⟩
  rcases world.bindBest_cases id endpoint session opts with
    ⟨other, result, served⟩ | ⟨_, _, result, _⟩
  · rw [served, Except.error.inj (result.symm.trans refused)]
  · rw [refused] at result
    cases result

theorem unbind_refused {mesh : Mesh} {session : SessionId} {linkNamed : String → Option Link}
    (refuses : endpoint.Refuses linkNamed (.unbind session) failure) :
    mesh.unbind id endpoint session = .error failure := by
  cases refuses
  rfl

/-- The call fails for the given reasons and no other, unless no link took a message, and then it
has changed nothing. -/
structure FailsFor (world : World) (sends : Prop) (refuses : Failure → Prop)
    (result : Outcome × World) : Prop where
  reasons : ∀ failure, (sends → ¬failure.Undelivered) →
    (result.1 = .failed failure ↔ refuses failure)
  unharmed : ∀ failure, refuses failure → world.Unharmed result.2

/-- Both directions and the unharmed world are put together here, for every kind of request alike.
-/
theorem failsFor_of {sends : Prop} {refuses : Failure → Prop} {result : Outcome × World}
    (fails : ∀ failure, (sends → ¬failure.Undelivered) → result.1 = .failed failure →
      refuses failure)
    (refused : ∀ failure, refuses failure →
      result.1 = .failed failure ∧ world.Unharmed result.2) :
    world.FailsFor sends refuses result :=
  ⟨fun failure settled => ⟨fails failure settled, fun refuses => (refused failure refuses).1⟩,
    fun failure refuses => (refused failure refuses).2⟩

/-- Each reason for a refusal makes the request fail just so, before anything is changed. -/
theorem performEndpoint_refused (present : world.endpointAt label = some (id, endpoint))
    {request : EndpointRequest}
    (refuses : endpoint.Refuses world.labels.links.find? request failure) :
    (world.performEndpoint perform label request).1 = .failed failure ∧
      world.Unharmed (world.performEndpoint perform label request).2 := by
  have same := world.unharmed_noted world.trace
  cases request with
  | addLink other =>
    obtain ⟨link, named, refused⟩ : ∃ link, world.labels.links.find? other = some link ∧
        world.mesh.addLink id endpoint link = .error failure := by
      cases refuses with
      | addLink named stopping =>
        exact ⟨_, named,
          Mesh.addLink_error_iff.mpr (Endpoint.addLink_error_iff.mpr ⟨stopping, rfl⟩)⟩
    unfold performEndpoint
    dsimp only
    rw [withEndpoint_eq present, withLink_eq named, refused]
    exact ⟨rfl, same⟩
  | bind session other =>
    obtain ⟨link, named, refused⟩ : ∃ link, world.labels.links.find? other = some link ∧
        world.mesh.bind id endpoint session link = .error failure := by
      cases refuses with
      | bindDirect named => exact ⟨_, named, rfl⟩
      | bindStray nonzero named stray =>
        exact ⟨_, named, Mesh.bind_error_iff.mpr
          (Endpoint.bind_error_iff.mpr (Or.inr ⟨nonzero, stray, rfl⟩))⟩
    unfold performEndpoint
    dsimp only
    rw [withEndpoint_eq present, withLink_eq named, refused]
    exact ⟨rfl, same⟩
  | bindBest session opts =>
    unfold performEndpoint
    dsimp only
    rw [withEndpoint_eq present, bindBest_refused refuses]
    exact ⟨rfl, world.unharmed_witnessSelection endpoint session opts⟩
  | unbind =>
    unfold performEndpoint
    dsimp only
    rw [withEndpoint_eq present, unbind_refused refuses]
    exact ⟨rfl, same⟩
  | _ => cases refuses

/-- Requests to endpoints fail for the reasons listed and for no others, and a failure does no harm.
-/
theorem performEndpoint_failsFor (perform : Performer)
    (present : world.endpointAt label = some (id, endpoint)) (request : EndpointRequest) :
    world.FailsFor request.Sends (endpoint.Refuses world.labels.links.find? request)
      (world.performEndpoint perform label request) :=
  failsFor_of (fun _ settled failed => performEndpoint_refuses present settled failed)
    fun _ refuses => performEndpoint_refused present refuses

end World

end DaemonMesh
