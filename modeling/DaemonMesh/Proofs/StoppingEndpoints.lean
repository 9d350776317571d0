import DaemonMesh.Proofs.EndpointLifecycle
import DaemonMesh.Proofs.ServedNames

namespace DaemonMesh

namespace Endpoint

variable {endpoint before after : Endpoint} {operation : Call} {link : Link} {session : SessionId}

/-- An endpoint that holds no session if it has stopped. -/
def Settled (endpoint : Endpoint) : Prop := endpoint.state = .stopping → endpoint.Unbound

theorem settled_reachedBy (name : String) (link : Link) (selector : Selector) :
    (reachedBy name link selector).Settled := fun stopped => by cases stopped

theorem call_bound_binds (bound : (endpoint.call operation).1 = .bound link) : operation.Binds := by
  cases operation with
  | bind | bindBest => trivial
  | removeLink => cases bound
  | addLink | unbind | send =>
    simp only [call] at bound
    split at bound <;> cases bound

/-- Stopping leaves no session, so only a binding brings one to a stopped endpoint. -/
theorem call_settled (consistent : endpoint.Consistent) (settled : endpoint.Settled)
    (operation : Call) :
    (endpoint.call operation).2.Settled ∨
      endpoint.state = .stopping ∧ ∃ link, (endpoint.call operation).1 = .bound link := by
  by_cases turned : (endpoint.call operation).2.state = endpoint.state
  · rcases endpoint.call_cases operation with ⟨same, _⟩ | ⟨taken, freed, step, answered, _⟩
    · rw [same]
      exact Or.inl settled
    · by_cases binds : taken = []
      · subst binds
        exact Or.inl fun stopping => step.unbound consistent.valid (settled (turned ▸ stopping))
      · obtain ⟨link, member⟩ := List.exists_mem_of_ne_nil taken binds
        cases state : endpoint.state with
        | stopping => exact Or.inr ⟨rfl, link, (answered link).mpr member⟩
        | started =>
          refine Or.inl fun stopping => ?_
          rw [turned, state] at stopping
          cases stopping
  · obtain ⟨_, _, _, _, unbound⟩ := call_turns consistent.valid turned
    exact Or.inl fun _ => unbound

/-- Some operation of a run binds a session on the endpoint although it has stopped. -/
def BindsStopped (start : Endpoint) (calls : List Call) : Prop :=
  ∃ earlier operation later link, calls = earlier ++ operation :: later ∧
    (runCalls call start earlier).2.state = .stopping ∧
      ((runCalls call start earlier).2.call operation).1 = .bound link

theorem BindsStopped.cons {calls : List Call}
    (binds : (endpoint.call operation).2.BindsStopped calls) :
    endpoint.BindsStopped (operation :: calls) := by
  obtain ⟨earlier, later, rest, link, rfl, stopping, bound⟩ := binds
  exact ⟨operation :: earlier, later, rest, link, rfl, stopping, bound⟩

theorem runCalls_settled (consistent : endpoint.Consistent) (settled : endpoint.Settled)
    (calls : List Call) :
    (runCalls call endpoint calls).2.Settled ∨ endpoint.BindsStopped calls := by
  induction calls generalizing endpoint with
  | nil => exact Or.inl settled
  | cons operation rest ih =>
    rcases call_settled consistent settled operation with next | ⟨stopping, link, bound⟩
    · exact (ih (call_consistent consistent operation) next).imp_right BindsStopped.cons
    · exact Or.inr ⟨[], operation, rest, link, rfl, stopping, bound⟩

/-- A binding after the stop shows. -/
theorem call_unsettled (stopping : (endpoint.call operation).2.state = .stopping)
    (bound : (endpoint.call operation).1 = .bound link) : ¬(endpoint.call operation).2.Settled := by
  intro settled
  have unbound := settled stopping
  rcases endpoint.call_cases operation with ⟨_, answered⟩ | ⟨taken, freed, step, answered, _⟩
  · exact answered link bound
  · have member := (answered link).mp bound
    generalize (endpoint.call operation).2 = next at step unbound
    cases step with
    | bind result =>
      obtain ⟨nonzero, _, rfl⟩ := bind_ok result
      have entries := unbound _ nonzero
      simp at entries
    | addLink | unbind | removeLink => exact List.not_mem_nil member

/-- A run keeps the endpoint settled all along just if it binds no session after the stop. -/
theorem settled_along_iff (consistent : endpoint.Consistent) (settled : endpoint.Settled)
    (calls : List Call) :
    (∀ earlier, earlier <+: calls → (runCalls call endpoint earlier).2.Settled) ↔
      ¬endpoint.BindsStopped calls := by
  constructor
  · rintro along ⟨earlier, operation, later, link, rfl, stopping, bound⟩
    have reached : (runCalls call endpoint (earlier ++ [operation])).2 =
        ((runCalls call endpoint earlier).2.call operation).2 := by
      rw [runCalls_append]
      rfl
    have before := runCalls_keeps Consistent
      (fun _ operation consistent => call_consistent consistent operation) earlier consistent
    have unsettled := call_unsettled (runCalls_stopping before stopping [operation]) bound
    rw [← reached] at unsettled
    exact unsettled (along _ ⟨later, by simp⟩)
  · rintro spared earlier ⟨later, rfl⟩
    refine (runCalls_settled consistent settled earlier).resolve_right ?_
    rintro ⟨before, operation, after, link, rfl, stopping, bound⟩
    exact spared ⟨before, operation, after ++ later, link, by simp, stopping, bound⟩

theorem Evolved.settled (consistent : before.Consistent) (settled : before.Settled)
    (evolved : before.Evolved after) : after.Settled := by
  obtain ⟨calls, unbinding, rfl⟩ := evolved
  refine (runCalls_settled consistent settled calls).resolve_right ?_
  rintro ⟨earlier, operation, later, link, rfl, _, bound⟩
  exact unbinding operation (by simp) (call_bound_binds bound)

theorem call_pathless (consistent : endpoint.Consistent) (stopping : endpoint.state = .stopping)
    (pathless : endpoint.routes.directLinks = []) (operation : Call) :
    (endpoint.call operation).2.routes.directLinks = [] := by
  rcases endpoint.call_cases operation with ⟨same, _⟩ | ⟨taken, freed, step, _⟩
  · rw [same]
    exact pathless
  · generalize (endpoint.call operation).2 = next at step
    cases step with
    | addLink _ result =>
      have started := (tryAddLink_some result).1
      rw [stopping] at started
      cases started
    | bind result =>
      have direct := (bind_ok result).2.1
      rw [pathless] at direct
      exact (List.not_mem_nil direct).elim
    | unbind result =>
      obtain ⟨nonzero, routes, unbound, rfl⟩ := unbind_ok result
      exact ((RouteTable.candidates_of_unbind? unbound).2 .direct (Ne.symm nonzero)).trans pathless
    | removeLink link =>
      have left := RouteTable.candidates_removeLink consistent.valid.ascending link .direct
      rw [← RouteTable.directLinks, ← RouteTable.directLinks, pathless] at left
      exact left

/-- Once nothing leads anywhere any more, nothing can be bound for good. -/
theorem runCalls_pathless (consistent : endpoint.Consistent) (stopping : endpoint.state = .stopping)
    (pathless : endpoint.routes.directLinks = []) (calls : List Call) :
    (runCalls call endpoint calls).2.Unbound := by
  induction calls generalizing endpoint with
  | nil =>
    rw [runCalls, unbound_iff consistent.valid.ascending]
    exact consistent.valid.sessionLinks_of_pathless pathless
  | cons operation rest ih =>
    exact ih (call_consistent consistent operation)
      (runCalls_stopping consistent stopping [operation])
      (call_pathless consistent stopping pathless operation)

theorem call_of_bind (bound : endpoint.bind session link = .ok after) :
    endpoint.call (.bind session link) = (.bound link, after) := by
  simp only [call, bound]

end Endpoint

namespace Mesh

variable {mesh next : Mesh}

/-- No stopped endpoint in the world holds a session. -/
def Settled (mesh : Mesh) : Prop :=
  ∀ id endpoint, mesh.endpoint? id = some endpoint → endpoint.Settled

theorem Reach.consistent {handles : Prop} (reach : Reach handles mesh) {id : Nat}
    {endpoint : Endpoint} (atId : mesh.endpoint? id = some endpoint) : endpoint.Consistent := by
  obtain ⟨name, link, selector, calls, rfl⟩ := reach.history atId
  exact Endpoint.runCalls_consistent name link selector calls

theorem Evolves.settled (consistent : ∀ id endpoint, mesh.endpoint? id = some endpoint →
    endpoint.Consistent) (settled : mesh.Settled) (evolves : mesh.Evolves next) :
    next.Settled := by
  intro id endpoint atId
  rcases evolves id endpoint atId with ⟨name, link, selector, evolved⟩ | ⟨before, there, evolved⟩
  · exact evolved.settled (Endpoint.consistent_reachedBy name link selector)
      (Endpoint.settled_reachedBy name link selector)
  · exact evolved.settled (consistent id before there) (settled id before there)

/-- A binding unsettles the world just where the endpoint has stopped. -/
theorem Binds.settled_iff {id : Nat} {before after : Endpoint} (settled : mesh.Settled)
    (binds : mesh.Binds next id before after) : next.Settled ↔ before.state = .started := by
  obtain ⟨session, link, there, bound, rfl⟩ := binds
  have slot (other : Nat) := endpoint?_setEndpoint there after other
  have state := (Endpoint.keeps_of_bind bound).1
  have reply := Endpoint.call_of_bind bound
  constructor
  · intro settledNext
    cases standing : before.state with
    | started => rfl
    | stopping =>
      have unsettled : ¬(before.call (.bind session link)).2.Settled := by
        refine Endpoint.call_unsettled ?_ (congrArg Prod.fst reply)
        rw [reply]
        exact state.trans standing
      rw [reply] at unsettled
      exact (unsettled (settledNext id after ((slot id).trans (if_pos rfl)))).elim
  · intro started other endpoint atOther stopping
    have found := (slot other).symm.trans atOther
    split at found
    · rw [← Option.some.inj found, state, started] at stopping
      cases stopping
    · exact settled other endpoint found stopping

/-- A session is bound on an endpoint that has stopped. -/
def BindsStopped (mesh next : Mesh) : Prop :=
  ∃ id before after, mesh.Binds next id before after ∧ before.state = .stopping

theorem Move.settled_iff {handles : Prop} (move : Move handles mesh next)
    (reach : Reach handles mesh) (settled : mesh.Settled) :
    next.Settled ↔ ¬mesh.BindsStopped next := by
  constructor
  · rintro settledNext ⟨id, before, after, binds, stopping⟩
    have bound := (binds.settled_iff settled).mp settledNext
    exact EndpointState.noConfusion (stopping.symm.trans bound)
  · intro spared
    rcases move.evolves_or_binds with evolves | ⟨id, before, after, binds, _⟩
    · exact evolves.settled (fun _ _ => reach.consistent) settled
    · refine (binds.settled_iff settled).mpr ?_
      cases state : before.state with
      | started => rfl
      | stopping => exact (spared ⟨id, before, after, binds, state⟩).elim

/-- Registered endpoints have not stopped as long as nothing happens behind the routers. -/
theorem Reach.settled (reach : Reach False mesh) : mesh.Settled := by
  induction reach with
  | start =>
    intro id endpoint atId
    simp [endpoint?, empty] at atId
  | @next mesh after reach move ih =>
    rcases move.evolves_or_binds with evolves | ⟨id, before, _, binds, unruly | ⟨_, _, registers⟩⟩
    · exact evolves.settled (fun _ _ => reach.consistent) ih
    · exact unruly.elim
    · obtain ⟨endpoint, there, started, _⟩ := reach.served _ _ id registers
      refine (binds.settled_iff ih).mpr ?_
      obtain ⟨_, _, atId, _⟩ := binds
      rw [Option.some.inj (atId.symm.trans there)]
      exact started

end Mesh

open Endpoint in
/-- A stopped endpoint holds no session just as long as none is bound on it after the stop. Nothing
refuses such a binding to a direct path that is left; where endpoints are changed through routers
alone it never comes to it. -/
theorem stopped_endpoints_bind_paths {handles : Prop} {mesh : Mesh}
    (reach : Mesh.Reach handles mesh) (name : String) (link : Link) (selector : Selector)
    (calls : List Call) :
    ((∀ earlier, earlier <+: calls →
        (runCalls call (reachedBy name link selector) earlier).2.Settled) ↔
      ¬(reachedBy name link selector).BindsStopped calls) ∧
    (∀ endpoint, (runCalls call (reachedBy name link selector) calls).2 = endpoint →
      endpoint.state = .stopping →
        (endpoint.routes.candidates .direct = [] → ∀ later,
          (runCalls call endpoint later).2.Unbound) ∧
        ∀ session ≠ .direct, ∀ path ∈ endpoint.routes.candidates .direct,
          (endpoint.call (.bind session path)).1 = .bound path ∧
            (endpoint.call (.bind session path)).2.state = .stopping ∧
            path ∈ (endpoint.call (.bind session path)).2.routes.candidates session) ∧
    (mesh.Settled → ∀ next, Mesh.Move handles mesh next →
      (next.Settled ↔ ¬mesh.BindsStopped next)) ∧
    (¬handles → mesh.Settled) := by
  refine ⟨settled_along_iff (consistent_reachedBy name link selector)
      (settled_reachedBy name link selector) calls, ?_,
    fun settled next move => move.settled_iff reach settled, fun unruly => ?_⟩
  · rintro endpoint rfl stopping
    have consistent := runCalls_consistent name link selector calls
    refine ⟨runCalls_pathless consistent stopping, fun session nonzero path direct => ?_⟩
    rw [call_of_bind (bind_direct nonzero direct)]
    refine ⟨rfl, stopping, ?_⟩
    simp
  · rw [eq_false unruly] at reach
    exact reach.settled

namespace Mesh

/-- A single endpoint outside of any router, stopped with a path through a third daemon left. -/
def strayed : Mesh where
  links := [sampleLink, Endpoint.sideLink]
  counts := [0, 0]
  overdrawn := []
  tables := []
  endpoints := [some Endpoint.cutOff]
  endpointHandles := [0]
  routers := []
  routerHandles := []
  registries := []

theorem reach_strayed : Reach True strayed := by
  have first : Reach True _ := .next .start (.openLink ":b.1" (.replicate 1))
  have second : Reach True _ := .next first (.openLink ":c.1" (.replicate 2))
  have opened : ∀ link ∈ [sampleLink, Endpoint.sideLink],
      link ∈ [sampleLink, Endpoint.sideLink] := fun _ member => member
  have made : Reach True _ := .next second
    (@Move.newEndpoint _ _ sampleLink (opened _ (by decide)) ":b.5" .firstAvailable)
  have held : Reach True _ := .next made (.holdEndpoint 0)
  have widened : Reach True _ := .next held
    (@Move.addLink _ _ _ 0 _ Endpoint.sideLink _ trivial rfl (opened _ (by decide)) rfl)
  have bound : Reach True _ := .next widened
    (@Move.bind _ _ _ 0 _ ⟨7⟩ sampleLink trivial rfl rfl)
  have unbound : Reach True _ := .next bound (@Move.unbind _ _ _ 0 _ ⟨7⟩ _ trivial rfl rfl)
  have removed : Reach True _ := .next unbound (@Move.removeLink _ _ 0 _ trivial rfl sampleLink)
  exact removed

theorem settled_strayed : strayed.Settled := by
  intro id endpoint atId _
  have only : endpoint = Endpoint.cutOff := by
    have member := List.mem_of_getElem? (endpoint?_eq_some.mp atId)
    exact Option.some.inj (List.mem_singleton.mp member)
  rw [only, Endpoint.unbound_iff]
  · rfl
  · exact List.pairwise_singleton _ _

end Mesh

open Endpoint Mesh in
theorem stopped_endpoints_bind_paths_strayed :
    (cutOff.state = .stopping ∧ (cutOff.call (.bind ⟨7⟩ sideLink)).2.state = .stopping ∧
      sideLink ∈ (cutOff.call (.bind ⟨7⟩ sideLink)).2.routes.candidates ⟨7⟩) ∧
    (Reach True strayed ∧ strayed.Settled ∧ ∃ next, Move True strayed next ∧ next.counts = [0, 1] ∧
      ¬next.Settled) ∧
    Reach False twiceBound ∧ twiceBound.Settled := by
  obtain ⟨_, stopped, moves, _⟩ :=
    stopped_endpoints_bind_paths reach_strayed ":b.5" sampleLink .firstAvailable sessionCalls
  obtain ⟨_, binds⟩ := stopped cutOff (congrArg Prod.snd runCalls_sessionCalls) rfl
  obtain ⟨_, stopping, entry⟩ := binds ⟨7⟩ (by decide) sideLink (by decide)
  have move : Move True strayed _ := @Move.bind _ _ _ 0 cutOff ⟨7⟩ sideLink trivial rfl rfl
  have unsettled := (moves settled_strayed _ move).not.mpr
    (not_not.mpr ⟨0, cutOff, _, ⟨⟨7⟩, sideLink, rfl, rfl, rfl⟩, rfl⟩)
  have tame := reach_twiceBound False
  exact ⟨⟨rfl, stopping, entry⟩, ⟨reach_strayed, settled_strayed, _, move, rfl, unsettled⟩, tame,
    (stopped_endpoints_bind_paths tame ":b.5" sampleLink .firstAvailable []).2.2.2 id⟩

end DaemonMesh
