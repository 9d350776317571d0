import DaemonMesh.Proofs.DepartureCalls
import DaemonMesh.Proofs.ReferenceCounts
import DaemonMesh.Proofs.Refusals
import DaemonMesh.Proofs.SnapshotDelivery
import Mathlib.Algebra.BigOperators.Finprod

namespace DaemonMesh

namespace RouteTable

variable {table : RouteTable} {session : SessionId} {link : Link} {lost : List Link}

/-- Entries are counted bucket by bucket, and a session without a bucket has none. -/
theorem size_eq_finsum (ascending : table.buckets.Ascending) :
    table.size = ∑ᶠ session, (table.firstBound session).2 := by
  have atKey : ∀ bucket ∈ table.buckets.entries,
      bucket.2.length = (table.firstBound bucket.1).2 := by
    rintro ⟨session, bucket⟩ member
    unfold firstBound candidates
    rw [(mem_entries_iff ascending).mp member]
    rfl
  have supported : Function.support (fun session => (table.firstBound session).2) ⊆
      (table.buckets.keys.toFinset : Set SessionId) := by
    intro session filled
    refine List.mem_toFinset.mpr (ascending.mem_keys_iff.mpr ?_)
    by_contra absent
    rw [Option.not_isSome_iff_eq_none] at absent
    have unused : table.candidates session = [] := by
      unfold candidates
      rw [absent]
      rfl
    exact filled (List.length_eq_zero_iff.mpr unused)
  rw [finsum_eq_sum_of_support_subset _ supported, List.sum_toFinset _ ascending.keys_nodup]
  unfold size links OrderedMap.keys
  rw [List.length_flatMap, List.map_map]
  exact congrArg List.sum (List.map_congr_left atKey)

theorem Valid.size_eq_zero_iff (valid : table.Valid) : table.size = 0 ↔ table.directLinks = [] := by
  unfold size
  rw [List.length_eq_zero_iff, List.eq_nil_iff_forall_not_mem, List.eq_nil_iff_forall_not_mem]
  exact forall_congr' fun link => not_congr valid.mem_links_iff

theorem Valid.size_without_eq_zero_iff (valid : table.Valid) :
    (table.without lost.contains).size = 0 ↔ ∀ link ∈ table.directLinks, link ∈ lost := by
  rw [(valid.without _).size_eq_zero_iff, List.eq_nil_iff_forall_not_mem]
  simp only [valid.mem_directLinks_without, not_and, not_not]

theorem Valid.canRouteWithout_eq_false_iff (valid : table.Valid) {guid : Guid} :
    table.canRouteWithout guid = false ↔ ∀ link ∈ table.directLinks, link.guid = guid := by
  simp [canRouteWithout, valid.mem_links_iff]

end RouteTable

/-- The links of an endpoint that lead to a daemon, in some order. -/
def Endpoint.Departing (endpoint : Endpoint) (guid : Guid) (order : List Link) : Prop :=
  ∀ link, link ∈ order ↔ link ∈ endpoint.routes.links ∧ link.guid = guid

theorem Endpoint.departing_filter (endpoint : Endpoint) (guid : Guid) :
    endpoint.Departing guid (endpoint.routes.links.filter fun link => link.guid == guid) := by
  intro link
  rw [List.mem_filter, beq_iff_eq]

namespace Mesh

variable {mesh : Mesh} {id : Nat} {endpoint : Endpoint} {session : SessionId} {link : Link}

/-- Takes links away from an endpoint one after the other. -/
def removeLinks (mesh : Mesh) (id : Nat) (links : List Link) : Mesh :=
  links.foldl (fun mesh link => (mesh.endpoint? id).elim mesh fun endpoint =>
    (mesh.removeLink id endpoint link).2) mesh

/-- How many entries an endpoint has left once links were taken away from it. -/
def Leaves (mesh : Mesh) (id : Nat) (links : List Link) (size : Nat) : Prop :=
  ∃ after, (mesh.removeLinks id links).endpoint? id = some after ∧ after.routes.size = size

theorem endpoint?_removeLink (atId : mesh.endpoint? id = some endpoint) (link : Link) :
    (mesh.removeLink id endpoint link).2.endpoint? id = some (endpoint.removeLink link).2.2 := by
  obtain ⟨counts, overdrawn, removal⟩ := mesh.removeLink_frame id endpoint link
  rw [removal]
  exact endpoint?_setEndpoint_self atId _

/-- The order of the removals does not show in the table that they leave. -/
theorem endpoint?_removeLinks (atId : mesh.endpoint? id = some endpoint)
    (valid : endpoint.routes.Valid) (links : List Link) : ∃ after,
      (mesh.removeLinks id links).endpoint? id = some after ∧
        after.routes = endpoint.routes.without links.contains := by
  induction links generalizing mesh endpoint with
  | nil => exact ⟨endpoint, atId, (valid.without_none fun _ _ => rfl).symm⟩
  | cons link rest ih =>
    have removed := endpoint?_removeLink atId link
    obtain ⟨after, found, routes⟩ := ih removed (valid.removeLink link)
    refine ⟨after, ?_, ?_⟩
    · unfold removeLinks at found ⊢
      rw [List.foldl_cons, atId]
      exact found
    · rw [routes]
      show ((endpoint.routes.removeLink link).2).without rest.contains = _
      rw [RouteTable.removeLink_eq_without, RouteTable.without_without]
      exact RouteTable.without_congr fun other _ => List.contains_cons.symm

/-- An endpoint has nothing left without the links to a daemon just if all its paths lead there. -/
theorem leaves_nothing_iff (atId : mesh.endpoint? id = some endpoint)
    (valid : endpoint.routes.Valid) {guid : Guid} {order : List Link}
    (departing : endpoint.Departing guid order) :
    mesh.Leaves id order 0 ↔ endpoint.routes.canRouteWithout guid = false := by
  obtain ⟨after, found, routes⟩ := endpoint?_removeLinks atId valid order
  have cleared : mesh.Leaves id order 0 ↔ (endpoint.routes.without order.contains).size = 0 := by
    rw [← routes]
    exact ⟨fun ⟨other, atOther, left⟩ => Option.some.inj (found.symm.trans atOther) ▸ left,
      fun left => ⟨after, found, left⟩⟩
  rw [cleared, valid.size_without_eq_zero_iff, valid.canRouteWithout_eq_false_iff]
  refine forall₂_congr fun link direct => ?_
  rw [departing link, valid.mem_links_iff]
  exact and_iff_right direct

/-- A link may be bound to a session if it is a direct path, whatever the session is. -/
theorem bind_goes_iff (nonzero : session ≠ .direct) :
    (∃ next, mesh.bind id endpoint session link = .ok next) ↔
      endpoint.routes.hasDirect link = true := by
  rw [RouteTable.hasDirect_iff]
  constructor
  · rintro ⟨next, call⟩
    obtain ⟨after, bound, _⟩ := bind_ok call
    exact (Endpoint.bind_ok bound).2.1
  · intro direct
    unfold bind
    rw [Endpoint.bind_direct nonzero direct]
    exact ⟨_, rfl⟩

/-- The reference of the first link is the one that is given back. -/
theorem Accounted.unbind_first (accounted : mesh.Accounted)
    (atId : mesh.endpoint? id = some endpoint) (nonzero : session ≠ .direct)
    (first : (endpoint.routes.firstBound session).1 = some link) :
    ∃ next, mesh.unbind id endpoint session = .ok (true, next) ∧
      next.count link + 1 = mesh.count link ∧
        ∀ other ∈ mesh.links, other ≠ link → next.count other = mesh.count other := by
  have alive := mem_liveTables_iff.mpr (Or.inr ⟨id, endpoint, atId, rfl⟩)
  have valid := accounted.valid _ alive
  have member : link ∈ endpoint.routes.candidates session := List.mem_of_head? first
  have bound : link ∈ endpoint.routes.sessionLinks :=
    (RouteTable.mem_sessionLinks_iff valid.ascending).mpr ⟨session, nonzero, member⟩
  have opened := accounted.sessionLinks_opened alive bound
  have covered : mesh.count link ≠ 0 := by
    rw [accounted.balanced link opened]
    have listed : link ∈ mesh.bindings := List.mem_flatMap.mpr ⟨_, alive, bound⟩
    have positive := List.count_pos_iff.mpr listed
    omega
  rw [unbind_eq mesh id endpoint nonzero]
  cases taken : endpoint.routes.unbind? session with
  | none =>
    have freeable := (endpoint.routes.unbind?_isSome session).mpr (List.length_pos_of_mem member)
    rw [taken] at freeable
    cases freeable
  | some removed =>
    obtain ⟨freed, routes⟩ := removed
    have oldest := (RouteTable.candidates_of_unbind? taken).1
    have same : freed = link := by
      have head : (endpoint.routes.candidates session).head? = some link := first
      rw [oldest] at head
      exact Option.some.inj head
    subst same
    have numbered : (mesh.setEndpoint id { endpoint with routes }).Numbered :=
      accounted.numbered.of_frame rfl rfl
    refine ⟨_, rfl, ?_, fun other known different => ?_⟩
    · have released := numbered.count_release opened opened covered
      rwa [List.count_singleton_self] at released
    · have released := numbered.count_release opened known covered
      rwa [List.count_singleton, beq_false_of_ne (Ne.symm different)] at released

end Mesh

namespace World

/-- What a sending offers to links, in the world as it is at the call. -/
def offersOf (perform : Performer) (world : World) (id : Nat) (endpoint : Endpoint)
    (message : Message) (session : SessionId) : List Offer :=
  (deliver (noting (push perform)) message (endpoint.routes.candidates session) 0
    (world.withMesh (world.mesh.holdEndpoint id), [])).2.2

end World

/-- A sending that has candidates asks the first of them first. -/
theorem Offered.head {ε : Type} {candidates : List Link} {message : Message} {failure : ε}
    {offers : List Offer} {result : Except ε Delivery}
    (offered : Offered candidates message failure offers result) :
    offers.head?.map Offer.link = candidates.head? := by
  rw [← List.head?_map]
  rcases offered.outcome with ⟨refused, link, rfl, _⟩ | ⟨_, all, _⟩
  · obtain ⟨rest, whole⟩ := offered.inOrder
    rw [← whole, List.head?_append, Option.or_of_isSome]
    simp
  · rw [all]

theorem Offered.refused {ε : Type} {candidates : List Link} {message : Message} {failure : ε}
    {offers : List Offer} {result : Except ε Delivery}
    (offered : Offered candidates message failure offers result)
    (all : ∀ offer ∈ offers, offer.answer ≠ none) : result = .error failure := by
  rcases offered.outcome with ⟨refused, link, rfl, _⟩ | ⟨_, _, failed⟩
  · exact (all _ (List.mem_append_right _ (List.mem_singleton_self _)) rfl).elim
  · exact failed

namespace Endpoint

/-- What the questions that an endpoint answers say about the calls that could be made next. -/
structure Foretells (world : World) (id : Nat) (endpoint : Endpoint) : Prop where
  bindable : ∀ link,
    (endpoint.routes.hasDirect link = true ↔
      ∀ session ≠ .direct, ∃ next, world.mesh.bind id endpoint session link = .ok next) ∧
    (endpoint.routes.hasDirect link = true ↔
      ∃ session ≠ .direct, ∃ next, world.mesh.bind id endpoint session link = .ok next)
  carries : ∀ link session, session ∈ endpoint.routes.sessionsOf link ↔
    session ≠ .direct ∧ link ∈ endpoint.routes.candidates session
  ridden : ∀ link, endpoint.routes.sessionsOf link ≠ [] → endpoint.routes.hasDirect link = true
  sends : ∀ perform message session,
    Offered (endpoint.routes.candidates session) message
      (.routing (.noRoute endpoint.name session (endpoint.routes.firstBound session).2))
      (world.offersOf perform id endpoint message session)
      (world.send perform id endpoint message session).1
  first : ∀ perform message session,
    (world.offersOf perform id endpoint message session).head?.map Offer.link =
      (endpoint.routes.firstBound session).1
  attempts : ∀ perform message session,
    (∀ offer ∈ world.offersOf perform id endpoint message session, offer.answer ≠ none) →
      (world.send perform id endpoint message session).1 = .error
        (.routing (.noRoute endpoint.name session (endpoint.routes.firstBound session).2))
  releases : ∀ session ≠ .direct, match (endpoint.routes.firstBound session).1 with
    | none => world.mesh.unbind id endpoint session = .ok (false, world.mesh)
    | some link => ∃ next, world.mesh.unbind id endpoint session = .ok (true, next) ∧
      next.count link + 1 = world.mesh.count link ∧
        ∀ other ∈ world.mesh.links, other ≠ link → next.count other = world.mesh.count other
  counted : endpoint.routes.size = ∑ᶠ session, (endpoint.routes.firstBound session).2
  /-- Any order of removals tells, and all tell the same. -/
  departs : ∀ guid,
    (endpoint.routes.canRouteWithout guid = false ↔
      ∀ order, endpoint.Departing guid order → world.mesh.Leaves id order 0) ∧
    (endpoint.routes.canRouteWithout guid = false ↔
      ∃ order, endpoint.Departing guid order ∧ world.mesh.Leaves id order 0)

end Endpoint

/-- What an endpoint answers to a question is what the call in question would do, in every world
that moves lead to. -/
theorem queries_foretell_calls {handles : Prop} {world : World}
    (reach : Mesh.Reach handles world.mesh) {id : Nat} {endpoint : Endpoint}
    (atId : world.mesh.endpoint? id = some endpoint) : endpoint.Foretells world id := by
  have accounted := reach.accounted
  have valid := accounted.valid _ (Mesh.mem_liveTables_iff.mpr (Or.inr ⟨id, endpoint, atId, rfl⟩))
  have offered (perform : Performer) (message : Message) (session : SessionId) :
      Offered (endpoint.routes.candidates session) message
        (.routing (.noRoute endpoint.name session (endpoint.routes.firstBound session).2))
        (world.offersOf perform id endpoint message session)
        (world.send perform id endpoint message session).1 := by
    obtain ⟨offers, sent, after, noted, offered, call⟩ :=
      world.send_offered perform id endpoint message session
    unfold World.offersOf
    rw [noted, call]
    exact offered
  have carries (link : Link) (session : SessionId) : session ∈ endpoint.routes.sessionsOf link ↔
      session ≠ .direct ∧ link ∈ endpoint.routes.candidates session :=
    RouteTable.mem_sessionsOf_iff valid.ascending
  refine ⟨fun link => ⟨?_, ?_⟩, carries, fun link ridden => ?_, offered,
    fun perform message session => (offered perform message session).head,
    fun perform message session => (offered perform message session).refused,
    fun session nonzero => ?_, RouteTable.size_eq_finsum valid.ascending,
    fun guid => ?_⟩
  · -- To get from bindings back to the path, any session that may be bound will do.
    have seven : (⟨7⟩ : SessionId) ≠ .direct := by decide
    exact ⟨fun direct session nonzero => (Mesh.bind_goes_iff nonzero).mpr direct,
      fun goes => (Mesh.bind_goes_iff seven).mp (goes _ seven)⟩
  · have seven : (⟨7⟩ : SessionId) ≠ .direct := by decide
    exact ⟨fun direct => ⟨_, seven, (Mesh.bind_goes_iff seven).mpr direct⟩,
      fun ⟨session, nonzero, goes⟩ => (Mesh.bind_goes_iff nonzero).mp goes⟩
  · obtain ⟨session, rides⟩ := List.exists_mem_of_ne_nil _ ridden
    exact RouteTable.hasDirect_iff.mpr (valid.gate session link ((carries link session).mp rides).2)
  · split
    · next nothing =>
      have empty : endpoint.routes.candidates session = [] := List.head?_eq_none_iff.mp nothing
      rw [Mesh.unbind_eq _ id endpoint nonzero]
      unfold RouteTable.unbind?
      rw [empty]
    · next link first => exact accounted.unbind_first atId nonzero first
  · have tells {order : List Link} (departing : endpoint.Departing guid order) :=
      Mesh.leaves_nothing_iff atId valid departing
    have listed := endpoint.departing_filter guid
    exact ⟨⟨fun alone _ departing => (tells departing).mpr alone,
        fun all => (tells listed).mp (all _ listed)⟩,
      ⟨fun alone => ⟨_, listed, (tells listed).mpr alone⟩,
        fun ⟨_, departing, left⟩ => (tells departing).mp left⟩⟩

namespace Mesh

/-- A link beside the sample link, to the same daemon and under the same name. -/
def twinLink : Link := ⟨1, ":b.1", .replicate 1⟩

/-- Three paths, and session 7 twice on the younger twin and once on the path to the other
daemon. -/
def crossing : Endpoint :=
  ⟨":b.5", .started, true,
    ⟨⟨[(⟨0⟩, [sampleLink, twinLink, farLink]), (⟨7⟩, [twinLink, farLink, twinLink])]⟩⟩,
    .firstAvailable⟩

def crossroads : Mesh where
  links := [sampleLink, twinLink, farLink]
  counts := [0, 2, 1]
  overdrawn := []
  tables := []
  endpoints := [some crossing]
  endpointHandles := []
  routers := []
  routerHandles := []
  registries := []

theorem reach_crossroads : Reach True crossroads := by
  have elder : Reach True _ := .next .start (.openLink ":b.1" (.replicate 1))
  have twin : Reach True _ := .next elder (.openLink ":b.1" (.replicate 1))
  have far : Reach True _ := .next twin (.openLink ":c.1" (.replicate 2))
  have known : ∀ link ∈ crossroads.links, link ∈ [sampleLink, twinLink, farLink] := fun _ => id
  have made : Reach True _ := .next far
    (.newEndpoint (known sampleLink (by decide)) ":b.5" .firstAvailable)
  have second : Reach True _ := .next made
    (@Move.addLink _ _ _ 0 _ twinLink _ trivial rfl (known twinLink (by decide)) rfl)
  have third : Reach True _ := .next second
    (@Move.addLink _ _ _ 0 _ farLink _ trivial rfl (known farLink (by decide)) rfl)
  have once : Reach True _ := .next third (@Move.bind _ _ _ 0 _ ⟨7⟩ twinLink trivial rfl rfl)
  have both : Reach True _ := .next once (@Move.bind _ _ _ 0 _ ⟨7⟩ farLink trivial rfl rfl)
  exact .next both (@Move.bind _ _ _ 0 _ ⟨7⟩ twinLink trivial rfl rfl)

end Mesh

open Mesh in
theorem queries_foretell_calls_crossroads :
    Reach True crossroads ∧ crossroads.endpoint? 0 = some crossing ∧
      (∃ next, crossroads.bind 0 crossing ⟨9⟩ sampleLink = .ok next) ∧
      (∃ next, crossroads.unbind 0 crossing ⟨7⟩ = .ok (true, next) ∧ next.count twinLink = 1) ∧
      ∑ᶠ session, (crossing.routes.firstBound session).2 = 6 ∧
      crossroads.Leaves 0 [twinLink, sampleLink] 2 ∧
      ∀ order, crossing.Departing (.replicate 1) order → ¬crossroads.Leaves 0 order 0 := by
  have reach : Reach True ({ World.empty with mesh := crossroads } : World).mesh := reach_crossroads
  have foretells : crossing.Foretells { World.empty with mesh := crossroads } 0 :=
    queries_foretell_calls reach rfl
  have released := foretells.releases ⟨7⟩ (by decide)
  obtain ⟨next, call, count, _⟩ := released
  have before : crossroads.count twinLink = 2 := rfl
  refine ⟨reach, rfl, (foretells.bindable sampleLink).1.mp (by decide) ⟨9⟩ (by decide),
    ⟨next, call, Nat.succ.inj (count.trans before)⟩, foretells.counted.symm, ⟨_, rfl, rfl⟩, ?_⟩
  intro order departing left
  have alone := (foretells.departs (.replicate 1)).2.mpr ⟨order, departing, left⟩
  exact absurd alone (by decide)

end DaemonMesh
