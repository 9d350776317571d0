import DaemonMesh.Proofs.Registered

namespace DaemonMesh

namespace RouteTable

variable {table : RouteTable} {session : SessionId} {link : Link}

theorem mem_sessionsOf_iff (ascending : table.buckets.Ascending) :
    session ∈ table.sessionsOf link ↔ session ≠ .direct ∧ link ∈ table.candidates session := by
  unfold sessionsOf sessionBuckets candidates
  simp only [List.mem_map, List.mem_filter, Prod.exists, mem_entries_iff ascending,
    Bool.not_eq_true', SessionId.not_isDirect_iff, List.contains_iff_mem]
  constructor
  · rintro ⟨_, bucket, ⟨⟨atSession, bound⟩, member⟩, rfl⟩
    exact ⟨bound, by simpa [atSession] using member⟩
  · rintro ⟨bound, member⟩
    cases atSession : table.buckets.find? session with
    | none => simp [atSession] at member
    | some bucket =>
      exact ⟨session, bucket, ⟨⟨atSession, bound⟩, by simpa [atSession] using member⟩, rfl⟩

theorem sessionsOf_ascending (ascending : table.buckets.Ascending) (link : Link) :
    (table.sessionsOf link).Pairwise (· < ·) := by
  unfold sessionsOf sessionBuckets
  refine List.Pairwise.map _ (fun _ _ below => below) ?_
  exact (ascending.sublist List.filter_sublist).sublist List.filter_sublist

theorem Valid.sessionLinks_of_pathless (valid : table.Valid) (pathless : table.directLinks = []) :
    table.sessionLinks = [] := by
  refine List.eq_nil_iff_forall_not_mem.mpr fun bound member => ?_
  have direct := valid.sessionLinks_direct member
  rw [pathless] at direct
  exact List.not_mem_nil direct

/-- An endpoint that runs empty holds no references. -/
theorem Valid.sessionLinks_of_leftEmpty (valid : table.Valid) {everBound : Bool}
    (emptied : Endpoint.leftEmpty everBound table link = true) : table.sessionLinks = [] := by
  unfold Endpoint.leftEmpty at emptied
  split at emptied
  · have unbound := (Bool.and_eq_true_iff.mp emptied).1
    by_contra held
    rw [valid.hasSessionRoutes_iff.mpr held] at unbound
    cases unbound
  · exact valid.sessionLinks_of_pathless (valid.isEmpty_iff.mp emptied)

/-- What keeps an endpoint going, be it a session or a parallel path, keeps a direct path. -/
theorem Valid.directLinks_of_not_leftEmpty (valid : table.Valid) {everBound : Bool}
    (remains : Endpoint.leftEmpty everBound table link = false) : table.directLinks ≠ [] := by
  intro pathless
  have unbound : table.hasSessionRoutes = false := by
    refine Bool.eq_false_iff.mpr fun bound => ?_
    exact valid.hasSessionRoutes_iff.mp bound (valid.sessionLinks_of_pathless pathless)
  have unreached : table.reaches link.guid = false := by
    refine Bool.eq_false_iff.mpr fun reached => ?_
    obtain ⟨other, direct, _⟩ := valid.reaches_iff.mp reached
    rw [pathless] at direct
    exact List.not_mem_nil direct
  unfold Endpoint.leftEmpty at remains
  rw [unbound, unreached, valid.isEmpty_iff.mpr pathless] at remains
  cases everBound <;> cases remains

end RouteTable

namespace Mesh

variable {mesh : Mesh} {id target : Nat} {current : Router} {endpoint : Endpoint} {link : Link}

/-- What the loss of a link does to a single endpoint: it goes altogether only if it runs empty and
nobody holds it. -/
def Loses (link : Link) (unheld : Prop) (endpoint : Endpoint) (after : Option Endpoint) : Prop :=
  (link ∉ endpoint.routes.directLinks ∧ after = some endpoint) ∨
    (link ∈ endpoint.routes.directLinks ∧ (after = some (endpoint.removeLink link).2.2 ∨
      (endpoint.removeLink link).2.1 = true ∧ unheld ∧ after = none))

theorem discardUnheld_frame (atTarget : mesh.endpoint? target = some endpoint) :
    ∃ slot counts overdrawn,
      (slot = some endpoint ∨ target ∉ mesh.endpointHandles ∧ slot = none) ∧
        mesh.discardUnheld target =
          { mesh with endpoints := mesh.endpoints.set target slot, counts, overdrawn } := by
  unfold discardUnheld
  split
  · refine ⟨some endpoint, mesh.counts, mesh.overdrawn, Or.inl rfl, ?_⟩
    obtain ⟨within, there⟩ := List.getElem?_eq_some_iff.mp (endpoint?_eq_some.mp atTarget)
    rw [← there, List.set_getElem_self]
  · next unheld =>
    rw [atTarget]
    obtain ⟨counts, overdrawn, frame, _⟩ := releaseAll_frame
      { mesh with endpoints := mesh.endpoints.set target none } endpoint.routes.sessionLinks
    refine ⟨none, counts, overdrawn, Or.inr ⟨fun handled => unheld ?_, rfl⟩, frame⟩
    rw [isHeld, List.contains_iff_mem.mpr handled, Bool.true_or]

theorem discardUnheld_shape (mesh : Mesh) (id : Nat) : ∃ endpoints counts overdrawn,
    mesh.discardUnheld id = { mesh with endpoints, counts, overdrawn } := by
  cases there : mesh.endpoint? id with
  | none =>
    unfold discardUnheld
    rw [there]
    exact ⟨_, _, _, ite_self mesh⟩
  | some endpoint =>
    obtain ⟨slot, counts, overdrawn, _, frame⟩ := discardUnheld_frame there
    exact ⟨_, counts, overdrawn, frame⟩

theorem foldl_discardUnheld_shape (mesh : Mesh) (ids : List Nat) : ∃ endpoints counts overdrawn,
    ids.foldl discardUnheld mesh = { mesh with endpoints, counts, overdrawn } := by
  induction ids generalizing mesh with
  | nil => exact ⟨_, _, _, rfl⟩
  | cons first rest ih =>
    obtain ⟨_, _, _, shape⟩ := mesh.discardUnheld_shape first
    obtain ⟨_, _, _, later⟩ := ih (mesh.discardUnheld first)
    rw [List.foldl_cons, later, shape]
    exact ⟨_, _, _, rfl⟩

theorem removeLink_frame (mesh : Mesh) (target : Nat) (endpoint : Endpoint) (link : Link) :
    ∃ counts overdrawn, mesh.removeLink target endpoint link = ((endpoint.removeLink link).2.1,
      { mesh with
        endpoints := mesh.endpoints.set target (some (endpoint.removeLink link).2.2)
        counts, overdrawn }) := by
  obtain ⟨counts, overdrawn, frame, _⟩ := releaseAll_frame
    (mesh.setEndpoint target (endpoint.removeLink link).2.2)
    ((endpoint.removeLink link).1.sessions.map fun _ => link)
  exact ⟨counts, overdrawn, Prod.ext rfl frame⟩

/-- The state after one endpoint with the lost link among its direct paths was visited. -/
theorem loseAt_frame (atId : mesh.router? id = some current)
    (atTarget : mesh.endpoint? target = some endpoint)
    (listed : current.endpoints.find? endpoint.name = some target)
    (direct : link ∈ endpoint.routes.directLinks) (report : LossReport) :
    ∃ slot counts overdrawn, Loses link (target ∉ mesh.endpointHandles) endpoint slot ∧
      loseAt id link (report, mesh) target =
        (⟨if (endpoint.removeLink link).2.1 then report.retired ++ [endpoint.name]
            else report.retired,
            report.lost ++
              (endpoint.routes.sessionsOf link).map fun session => (endpoint.name, session)⟩,
          { mesh with
            endpoints := mesh.endpoints.set target slot
            routers := if (endpoint.removeLink link).2.1 then
              mesh.routers.set id
                (some { current with endpoints := current.endpoints.erase endpoint.name })
              else mesh.routers
            counts, overdrawn }) := by
  obtain ⟨counts, overdrawn, removal⟩ := mesh.removeLink_frame target endpoint link
  rw [loseAt_hit atTarget direct, removal]
  cases emptied : (endpoint.removeLink link).2.1 with
  | false => exact ⟨_, counts, overdrawn, Or.inr ⟨direct, Or.inl rfl⟩, rfl⟩
  | true =>
    have cleared : ({ mesh with
        endpoints := mesh.endpoints.set target (some (endpoint.removeLink link).2.2)
        routers := mesh.routers.set id
          (some { current with endpoints := current.endpoints.erase endpoint.name })
        counts, overdrawn } : Mesh).endpoint? target = some (endpoint.removeLink link).2.2 :=
      (join_getElem?_set (Or.inr (endpoint?_lt atTarget))).trans (if_pos rfl)
    obtain ⟨slot, counts', overdrawn', fate, discarded⟩ := discardUnheld_frame cleared
    have loses : Loses link (target ∉ mesh.endpointHandles) endpoint slot :=
      Or.inr ⟨direct, fate.imp_right fun gone => ⟨emptied, gone⟩⟩
    refine ⟨slot, counts', overdrawn', loses, ?_⟩
    have stillAt : ({ mesh with
        endpoints := mesh.endpoints.set target (some (endpoint.removeLink link).2.2)
        counts, overdrawn } : Mesh).router? id = some current := atId
    rw [List.set_set] at discarded
    simp only [retire, stillAt, listed, if_true]
    exact Prod.ext rfl discarded

end Mesh

end DaemonMesh
