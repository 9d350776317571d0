import DaemonMesh.Proofs.ReferenceCounts
import Mathlib.Data.List.Nodup

namespace DaemonMesh

namespace RouteTable

variable {table : RouteTable} {session : SessionId} {link : Link}

/-- No entry of a link outlives its removal. -/
theorem Valid.removed (valid : table.Valid) (link : Link) (session : SessionId) :
    link ∉ (table.removeLink link).2.candidates session := by
  rw [candidates_removeLink valid.ascending]
  simp

theorem Valid.chooseFirst_direct (valid : table.Valid)
    (chosen : Selector.chooseFirst table session = some link) : link ∈ table.directLinks := by
  unfold Selector.chooseFirst firstBound at chosen
  cases first : (table.candidates session).head? with
  | none =>
    rw [first] at chosen
    exact List.mem_of_head? chosen
  | some bound =>
    rw [first] at chosen
    rw [← Option.some.inj chosen]
    exact valid.gate session bound (List.mem_of_head? first)

theorem Valid.chooseFirst_eq_none_iff (valid : table.Valid) :
    Selector.chooseFirst table session = none ↔ table.directLinks = [] := by
  unfold Selector.chooseFirst firstBound
  constructor
  · intro nothing
    cases first : (table.candidates session).head? with
    | none =>
      rw [first] at nothing
      exact List.head?_eq_none_iff.mp nothing
    | some bound =>
      rw [first] at nothing
      cases nothing
  · intro pathless
    have unbound : table.candidates session = [] := by
      refine List.eq_nil_iff_forall_not_mem.mpr fun bound member => ?_
      have direct := valid.gate session bound member
      rw [pathless] at direct
      exact List.not_mem_nil direct
    rw [unbound, pathless]
    rfl

end RouteTable

/-- A link that is a direct path may be bound. -/
theorem Endpoint.bind_direct {endpoint : Endpoint} {session : SessionId} {link : Link}
    (nonzero : session ≠ .direct) (direct : link ∈ endpoint.routes.directLinks) :
    endpoint.bind session link =
      .ok { endpoint with routes := endpoint.routes.append session link, everBound := true } := by
  simp [bind, RouteTable.bind?, nonzero, direct]

theorem Endpoint.bind_stray {endpoint : Endpoint} {session : SessionId} {link : Link}
    (nonzero : session ≠ .direct) (stray : link ∉ endpoint.routes.directLinks) :
    endpoint.bind session link = .error (.routing (.noEndpoint endpoint.name session)) := by
  simp [bind, RouteTable.bind?, nonzero, stray]

theorem Endpoint.bindChosen_direct {endpoint : Endpoint} {session : SessionId} {link : Link}
    (nonzero : session ≠ .direct) (direct : link ∈ endpoint.routes.directLinks) :
    endpoint.bindChosen session (some link) =
      .ok (link,
        { endpoint with routes := endpoint.routes.append session link, everBound := true }) := by
  simp [bindChosen, nonzero, bind_direct nonzero direct, Functor.map, Except.map]

theorem Endpoint.bindChosen_stray {endpoint : Endpoint} {session : SessionId} {link : Link}
    (nonzero : session ≠ .direct) (stray : link ∉ endpoint.routes.directLinks) :
    endpoint.bindChosen session (some link) =
      .error (.routing (.noEndpoint endpoint.name session)) := by
  simp [bindChosen, nonzero, bind_stray nonzero stray, Functor.map, Except.map]

theorem Endpoint.bindChosen_none {endpoint : Endpoint} {session : SessionId}
    (nonzero : session ≠ .direct) :
    endpoint.bindChosen session none = .error (.routing (.noEndpoint endpoint.name session)) := by
  simp [bindChosen, nonzero]

/-- A best binding is a binding of what the selector chooses; its being asked is witnessed at most.
-/
theorem World.bindBest_cases (world : World) (id : Nat) (endpoint : Endpoint) (session : SessionId)
    (opts : Option SessionOpts) :
    (∃ failure, endpoint.bindChosen session (endpoint.selector.choose
          ⟨endpoint.routes, session, opts, world.labels.links.find?⟩) = .error failure ∧
        world.bindBest id endpoint session opts =
          (.error failure, world.witnessSelection endpoint session opts)) ∨
      ∃ link after, endpoint.bindChosen session (endpoint.selector.choose
          ⟨endpoint.routes, session, opts, world.labels.links.find?⟩) = .ok (link, after) ∧
        world.bindBest id endpoint session opts =
          (.ok link, (world.witnessSelection endpoint session opts).withMesh
            ((world.mesh.setEndpoint id after).acquire link)) := by
  unfold bindBest Mesh.bindChosen
  rw [← mesh_witnessSelection world endpoint session opts]
  dsimp only
  cases endpoint.bindChosen session (endpoint.selector.choose
      ⟨endpoint.routes, session, opts, world.labels.links.find?⟩) with
  | error failure => exact Or.inl ⟨failure, rfl, rfl⟩
  | ok chosen => exact Or.inr ⟨chosen.1, chosen.2, rfl, rfl⟩

/-- The default selector proposes what the gate lets through, and nothing only where there is no
direct path. -/
theorem World.bindBest_first (world : World) (id : Nat) {endpoint : Endpoint} {session : SessionId}
    (valid : endpoint.routes.Valid) (first : endpoint.selector = .firstAvailable)
    (nonzero : session ≠ .direct) (opts : Option SessionOpts) :
    (endpoint.routes.directLinks = [] ∧ (world.bindBest id endpoint session opts).1 =
        .error (.routing (.noEndpoint endpoint.name session))) ∨
      ∃ link ∈ endpoint.routes.directLinks,
        (world.bindBest id endpoint session opts).1 = .ok link := by
  unfold bindBest
  dsimp only
  rw [first]
  dsimp only [Selector.choose]
  cases chosen : Selector.chooseFirst endpoint.routes session with
  | none =>
    refine Or.inl ⟨valid.chooseFirst_eq_none_iff.mp chosen, ?_⟩
    unfold Mesh.bindChosen
    rw [Endpoint.bindChosen_none nonzero]
    rfl
  | some link =>
    have direct := valid.chooseFirst_direct chosen
    refine Or.inr ⟨link, direct, ?_⟩
    unfold Mesh.bindChosen
    rw [Endpoint.bindChosen_direct nonzero direct]
    rfl

theorem Mesh.Accounted.distinct_numbers {mesh : Mesh} (accounted : mesh.Accounted)
    {table : RouteTable}
    (alive : table ∈ mesh.liveTables) : (table.directLinks.map Link.number).Nodup := by
  refine List.Nodup.map_on ?_ (accounted.valid table alive).distinct
  intro link direct other directOther same
  by_contra different
  exact accounted.numbered.number_ne (accounted.opened table alive other directOther)
    (accounted.opened table alive link direct) different same

/-- Bindings ride on direct paths, each of which is listed once, in every table of every run; so the
default selector fails just where there is no direct path. -/
theorem bindings_ride_on_direct_paths {handles : Prop} {world : World}
    (reach : Mesh.Reach handles world.mesh) :
    (∀ table ∈ world.mesh.liveTables,
      (∀ session ≠ .direct, ∀ link ∈ table.candidates session, link ∈ table.candidates .direct) ∧
        ((table.candidates .direct).map Link.number).Nodup ∧
        (∀ link session, link ∉ (table.removeLink link).2.candidates session) ∧
        ∀ session link, Selector.chooseFirst table session = some link →
          table.hasDirect link = true) ∧
      ∀ id endpoint session, world.mesh.endpoint? id = some endpoint →
        endpoint.selector = .firstAvailable → session ≠ .direct → ∀ opts,
          ((world.bindBest id endpoint session opts).1 =
              .error (.routing (.noEndpoint endpoint.name session)) ↔
            endpoint.routes.candidates .direct = []) ∧
            (endpoint.routes.candidates .direct ≠ [] →
              ∃ link ∈ endpoint.routes.candidates .direct,
                (world.bindBest id endpoint session opts).1 = .ok link) := by
  have accounted := reach.accounted
  refine ⟨fun table alive => ?_, fun id endpoint session atId first nonzero opts => ?_⟩
  · have valid := accounted.valid table alive
    refine ⟨fun session _ => valid.gate session, accounted.distinct_numbers alive,
      valid.removed, ?_⟩
    exact fun session link chosen => RouteTable.hasDirect_iff.mpr (valid.chooseFirst_direct chosen)
  · have alive := Mesh.mem_liveTables_iff.mpr (Or.inr ⟨id, endpoint, atId, rfl⟩)
    have valid := accounted.valid endpoint.routes alive
    rcases world.bindBest_first id valid first nonzero opts with
      ⟨pathless, failed⟩ | ⟨link, direct, bound⟩
    · exact ⟨⟨fun _ => pathless, fun _ => failed⟩, fun some => (some pathless).elim⟩
    · refine ⟨⟨fun failed => ?_, fun pathless => ?_⟩, fun _ => ⟨link, direct, bound⟩⟩
      · rw [bound] at failed
        cases failed
      · rw [RouteTable.directLinks, pathless] at direct
        exact (List.not_mem_nil direct).elim

theorem bindings_ride_on_direct_paths_twiceBound :
    Mesh.sampleLink ∈ Mesh.sampleEndpoint.routes.candidates .direct ∧
      ∃ link ∈ Mesh.sampleEndpoint.routes.candidates .direct,
        (({ World.empty with mesh := Mesh.twiceBound } : World).bindBest 0 Mesh.sampleEndpoint ⟨9⟩
          none).1 = .ok link := by
  have reach : Mesh.Reach True ({ World.empty with mesh := Mesh.twiceBound } : World).mesh :=
    Mesh.reach_twiceBound True
  have laws := bindings_ride_on_direct_paths reach
  have alive : Mesh.sampleEndpoint.routes ∈ Mesh.twiceBound.liveTables :=
    Mesh.mem_liveTables_iff.mpr (Or.inr ⟨0, Mesh.sampleEndpoint, rfl, rfl⟩)
  have bound : Mesh.sampleLink ∈ Mesh.sampleEndpoint.routes.candidates ⟨7⟩ := by decide
  exact ⟨(laws.1 _ alive).1 ⟨7⟩ (by decide) _ bound,
    (laws.2 0 Mesh.sampleEndpoint ⟨9⟩ rfl rfl (by decide) none).2 (by decide)⟩

end DaemonMesh
