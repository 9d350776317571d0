import DaemonMesh.Endpoint
import DaemonMesh.Proofs.BindingGate

namespace DaemonMesh

namespace RouteTable

variable {table : RouteTable}

/-- A valid table without direct paths has no entries at all, as every session entry is on a direct
path. -/
theorem Valid.isEmpty_iff (valid : table.Valid) :
    table.isEmpty = true ↔ table.directLinks = [] := by
  unfold isEmpty
  rw [List.isEmpty_iff]
  constructor
  · intro empty
    unfold directLinks candidates OrderedMap.find?
    rw [empty]
    rfl
  · intro none
    refine List.eq_nil_iff_forall_not_mem.mpr ?_
    rintro ⟨session, bucket⟩ member
    obtain ⟨link, inBucket⟩ := List.exists_mem_of_ne_nil bucket (valid.filled _ member)
    have atSession : link ∈ table.candidates session := by
      unfold candidates
      rw [(mem_entries_iff valid.ascending).mp member]
      exact inBucket
    have direct := valid.gate session link atSession
    rw [none] at direct
    exact List.not_mem_nil direct

/-- Buckets are never left empty, so asking for buckets is asking for links in them. -/
theorem Valid.hasSessionRoutes_iff (valid : table.Valid) :
    table.hasSessionRoutes = true ↔ table.sessionLinks ≠ [] := by
  unfold hasSessionRoutes sessionLinks
  rw [Bool.not_eq_true', Ne, List.flatMap_eq_nil_iff, List.isEmpty_eq_false_iff_exists_mem]
  constructor
  · rintro ⟨bucket, member⟩ drained
    exact valid.filled bucket (List.mem_filter.mp member).1 (drained bucket member)
  · intro held
    by_contra absent
    exact held fun bucket member => (absent ⟨bucket, member⟩).elim

/-- Every entry's link is a direct path, too. -/
theorem Valid.mem_links_iff (valid : table.Valid) {link : Link} :
    link ∈ table.links ↔ link ∈ table.directLinks := by
  rw [RouteTable.mem_links_iff valid.ascending]
  exact ⟨fun ⟨session, member⟩ => valid.gate session link member, fun member => ⟨.direct, member⟩⟩

/-- For the same reason the daemons that are reached are those at the end of direct paths. -/
theorem Valid.reaches_iff (valid : table.Valid) {guid : Guid} :
    table.reaches guid = true ↔ ∃ link ∈ table.directLinks, link.guid = guid := by
  simp [reaches, valid.mem_links_iff]

/-- Sessions ride on direct paths only. -/
theorem Valid.sessionLinks_direct (valid : table.Valid) {link : Link}
    (member : link ∈ table.sessionLinks) : link ∈ table.directLinks := by
  obtain ⟨session, _, taken⟩ := (mem_sessionLinks_iff valid.ascending).mp member
  exact valid.gate session link taken

end RouteTable

namespace Endpoint

variable {endpoint next : Endpoint} {session : SessionId} {link : Link}

/-- A link is added to an endpoint that is started, and to its direct paths. -/
theorem tryAddLink_some {added : Bool} (taken : endpoint.tryAddLink link = some (added, next)) :
    endpoint.state = .started ∧
      next = { endpoint with routes := (endpoint.routes.insertDirect link).2 } := by
  unfold tryAddLink at taken
  split at taken
  · simp at taken
  · next going =>
    obtain ⟨_, rfl⟩ := Prod.mk.inj (Option.some.inj taken)
    refine ⟨?_, rfl⟩
    cases state : endpoint.state with
    | started => rfl
    | stopping => simp [isStopping, state] at going

/-- What a successful binding says: a session other than 0, on a direct path, and remembered from
then on. -/
theorem bind_ok (bound : endpoint.bind session link = .ok next) :
    session ≠ .direct ∧ link ∈ endpoint.routes.directLinks ∧
      next =
        { endpoint with routes := endpoint.routes.append session link, everBound := true } := by
  unfold bind at bound
  split at bound
  · simp at bound
  · next nonzero =>
    refine ⟨fun same => nonzero (SessionId.isDirect_iff.mpr same), ?_⟩
    split at bound
    · simp at bound
    · next routes taken =>
      obtain ⟨direct, rfl⟩ := RouteTable.bind?_some taken
      exact ⟨direct, (Except.ok.inj bound).symm⟩

/-- A best binding that succeeds is the binding of what was chosen. -/
theorem bindChosen_ok {choice : Option Link} {chosen : Link}
    (bound : endpoint.bindChosen session choice = .ok (chosen, next)) :
    choice = some chosen ∧ endpoint.bind session chosen = .ok next := by
  unfold bindChosen at bound
  split at bound
  · simp at bound
  · split at bound
    · simp at bound
    · next link =>
      cases result : endpoint.bind session link with
      | error failure => rw [result] at bound; simp [Functor.map, Except.map] at bound
      | ok after =>
        rw [result] at bound
        obtain ⟨rfl, rfl⟩ := Prod.mk.inj (Except.ok.inj bound)
        exact ⟨rfl, result⟩

/-- Unbinding takes an entry from the table; the endpoint remembers all the same that it was bound.
-/
theorem unbind_ok (unbound : endpoint.unbind session = .ok (some (link, next))) :
    session ≠ .direct ∧ ∃ routes, endpoint.routes.unbind? session = some (link, routes) ∧
      next = { endpoint with routes } := by
  unfold unbind at unbound
  split at unbound
  · simp at unbound
  · next nonzero =>
    refine ⟨fun same => nonzero (SessionId.isDirect_iff.mpr same), ?_⟩
    obtain ⟨⟨taken, routes⟩, found, same⟩ := Option.map_eq_some_iff.mp (Except.ok.inj unbound)
    obtain ⟨rfl, rfl⟩ := Prod.mk.inj same
    exact ⟨routes, found, rfl⟩

/-- One operation on an endpoint, with the references that it takes and gives back. Direct paths
come from the links that are known. -/
inductive Step (known : Link → Prop) : Endpoint → List Link → List Link → Endpoint → Prop
  | addLink {endpoint next : Endpoint} {link : Link} {added : Bool} (isKnown : known link)
      (taken : endpoint.tryAddLink link = some (added, next)) : Step known endpoint [] [] next
  | bind {endpoint next : Endpoint} {session : SessionId} {link : Link}
      (bound : endpoint.bind session link = .ok next) : Step known endpoint [link] [] next
  | unbind {endpoint next : Endpoint} {session : SessionId} {link : Link}
      (unbound : endpoint.unbind session = .ok (some (link, next))) :
        Step known endpoint [] [link] next
  | removeLink {endpoint : Endpoint} (link : Link) :
      Step known endpoint [] ((endpoint.removeLink link).1.sessions.map fun _ => link)
        (endpoint.removeLink link).2.2

/-- On the table each operation is a step of its own kind, with the same references taken and freed.
-/
theorem Step.routes {known : Link → Prop} {taken freed : List Link}
    (step : Step known endpoint taken freed next) :
    RouteTable.Step known endpoint.routes taken freed next.routes := by
  cases step with
  | addLink isKnown taken =>
    rw [(tryAddLink_some taken).2]
    exact .insertDirect isKnown
  | bind bound =>
    obtain ⟨nonzero, direct, rfl⟩ := bind_ok bound
    exact .bind nonzero (if_pos (RouteTable.hasDirect_iff.mpr direct))
  | unbind unbound =>
    obtain ⟨nonzero, routes, found, rfl⟩ := unbind_ok unbound
    exact .unbind nonzero found
  | removeLink link => exact .removeLink link

/-- No operation renames an endpoint, so its router finds it under the name it was registered with.
-/
theorem Step.name {known : Link → Prop} {taken freed : List Link}
    (step : Step known endpoint taken freed next) : next.name = endpoint.name := by
  cases step with
  | addLink _ taken => rw [(tryAddLink_some taken).2]
  | bind bound => rw [(bind_ok bound).2.2]
  | unbind unbound =>
    obtain ⟨_, routes, _, rfl⟩ := unbind_ok unbound
    rfl
  | removeLink => rfl

/-- Nor does one exchange the selector. -/
theorem Step.selector {known : Link → Prop} {taken freed : List Link}
    (step : Step known endpoint taken freed next) : next.selector = endpoint.selector := by
  cases step with
  | addLink _ taken => rw [(tryAddLink_some taken).2]
  | bind bound => rw [(bind_ok bound).2.2]
  | unbind unbound =>
    obtain ⟨_, routes, _, rfl⟩ := unbind_ok unbound
    rfl
  | removeLink => rfl

/-- An endpoint that stays in its state and does not lose its last direct path. -/
def Keeps (before after : Endpoint) : Prop :=
  after.state = before.state ∧
    (before.routes.directLinks ≠ [] → after.routes.directLinks ≠ [])

theorem keeps_self (endpoint : Endpoint) : endpoint.Keeps endpoint := ⟨rfl, fun some => some⟩

/-- More paths leave no endpoint without one. -/
theorem keeps_of_tryAddLink {added : Bool} (taken : endpoint.tryAddLink link = some (added, next)) :
    endpoint.Keeps next := by
  rw [(tryAddLink_some taken).2]
  refine ⟨rfl, fun some => ?_⟩
  unfold RouteTable.insertDirect
  split
  · exact some
  · simp

/-- A binding is on a path and takes none away. -/
theorem keeps_of_bind (bound : endpoint.bind session link = .ok next) : endpoint.Keeps next := by
  obtain ⟨nonzero, _, rfl⟩ := bind_ok bound
  refine ⟨rfl, fun some => ?_⟩
  rwa [RouteTable.directLinks_append, if_neg nonzero]

/-- Session 0 cannot be unbound, and so the direct paths stay. -/
theorem keeps_of_unbind (unbound : endpoint.unbind session = .ok (some (link, next))) :
    endpoint.Keeps next := by
  obtain ⟨nonzero, routes, found, rfl⟩ := unbind_ok unbound
  refine ⟨rfl, fun some => ?_⟩
  unfold RouteTable.directLinks
  rw [(RouteTable.candidates_of_unbind? found).2 .direct (Ne.symm nonzero)]
  exact some

end Endpoint

end DaemonMesh
