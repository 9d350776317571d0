import DaemonMesh.Proofs.EndpointCalls
import DaemonMesh.Proofs.Registered

namespace DaemonMesh

namespace Endpoint

variable {endpoint before middle after : Endpoint}

/-- Every step is what some operation does. -/
theorem Step.call {known : Link → Prop} {taken freed : List Link}
    (step : Step known endpoint taken freed after) :
    ∃ operation, (endpoint.call operation).2 = after ∧ (taken = [] → ¬operation.Binds) := by
  cases step with
  | @addLink _ link _ _ result =>
    refine ⟨.addLink link, ?_, fun _ => id⟩
    simp only [Endpoint.call, Endpoint.addLink, result]
  | @bind _ session link result =>
    refine ⟨.bind session link, ?_, fun none => by cases none⟩
    simp only [Endpoint.call, result]
  | @unbind _ session link result =>
    refine ⟨.unbind session, ?_, fun _ => id⟩
    simp only [Endpoint.call, result]
  | removeLink link => exact ⟨.removeLink link, rfl, fun _ => id⟩

/-- What operations make of an endpoint, none of which tries to bind a session. -/
def Evolved (before after : Endpoint) : Prop :=
  ∃ calls : List Call, (∀ operation ∈ calls, ¬operation.Binds) ∧
    (runCalls call before calls).2 = after

theorem evolved_self (endpoint : Endpoint) : endpoint.Evolved endpoint :=
  ⟨[], by simp, rfl⟩

theorem Evolved.trans (first : before.Evolved middle) (second : middle.Evolved after) :
    before.Evolved after := by
  obtain ⟨calls, unbinding, rfl⟩ := first
  obtain ⟨later, alsoUnbinding, rfl⟩ := second
  refine ⟨calls ++ later, ?_, by rw [runCalls_append]⟩
  exact List.forall_mem_append.mpr ⟨unbinding, alsoUnbinding⟩

/-- A step that takes no reference has bound nothing, so it removed links or added a direct path. -/
theorem Step.evolved {known : Link → Prop} {freed : List Link}
    (step : Step known endpoint [] freed after) : endpoint.Evolved after := by
  obtain ⟨operation, result, unbinding⟩ := step.call
  exact ⟨[operation], by simpa using unbinding rfl, result⟩

end Endpoint

namespace Mesh

variable {mesh middle next : Mesh} {id target : Nat} {endpoint after : Endpoint} {link : Link}

/-- Every endpoint there is afterwards was there before or is a fresh one, and has come where it is
without a binding. -/
def Evolves (mesh next : Mesh) : Prop :=
  ∀ id endpoint, next.endpoint? id = some endpoint →
    (∃ name link selector, (Endpoint.reachedBy name link selector).Evolved endpoint) ∨
      ∃ before, mesh.endpoint? id = some before ∧ before.Evolved endpoint

/-- A session is bound on an endpoint. -/
def Binds (mesh next : Mesh) (id : Nat) (before after : Endpoint) : Prop :=
  ∃ session link, mesh.endpoint? id = some before ∧ before.bind session link = .ok after ∧
    next = (mesh.setEndpoint id after).acquire link

/-- Whatever else happens, endpoints that are left alone have evolved. -/
theorem evolves_of_endpoints (same : next.endpoints = mesh.endpoints) : mesh.Evolves next := by
  intro id endpoint found
  unfold endpoint? at found
  rw [same] at found
  exact Or.inr ⟨endpoint, found, endpoint.evolved_self⟩

theorem Evolves.trans (first : mesh.Evolves middle) (second : middle.Evolves next) :
    mesh.Evolves next := by
  intro id endpoint found
  rcases second id endpoint found with fresh | ⟨between, foundBetween, later⟩
  · exact Or.inl fresh
  · rcases first id between foundBetween with ⟨name, link, selector, earlier⟩ |
      ⟨before, foundBefore, earlier⟩
    · exact Or.inl ⟨name, link, selector, earlier.trans later⟩
    · exact Or.inr ⟨before, foundBefore, earlier.trans later⟩

/-- References come and go without touching endpoints. -/
theorem Evolves.releaseAll (evolves : mesh.Evolves next) (links : List Link) :
    mesh.Evolves (next.releaseAll links) := by
  obtain ⟨counts, overdrawn, frame, _⟩ := next.releaseAll_frame links
  refine evolves.trans (evolves_of_endpoints ?_)
  rw [frame]

theorem evolves_dropTable (mesh : Mesh) (id : Nat) : mesh.Evolves (mesh.dropTable id) := by
  unfold dropTable
  split
  · exact evolves_of_endpoints rfl
  · exact (evolves_of_endpoints rfl).releaseAll _

theorem evolves_addEndpoint (mesh : Mesh) (name : String) (link : Link) (selector : Selector) :
    mesh.Evolves (mesh.addEndpoint (.reachedBy name link selector)).2 := by
  intro id endpoint found
  have slot := endpoint?_eq_some.mp found
  simp only [addEndpoint, List.getElem?_append] at slot
  split at slot
  · exact Or.inr ⟨endpoint, endpoint?_eq_some.mpr slot, endpoint.evolved_self⟩
  · have fresh := Option.some.inj (List.mem_singleton.mp (List.mem_of_getElem? slot))
    exact Or.inl ⟨name, link, selector, fresh ▸ endpoint.evolved_self⟩

/-- One endpoint is written to, and the others stand where they stood. -/
theorem evolves_setEndpoint (atId : mesh.endpoint? id = some endpoint)
    (evolved : endpoint.Evolved after) : mesh.Evolves (mesh.setEndpoint id after) := by
  intro other current found
  rw [endpoint?_setEndpoint atId] at found
  split at found
  · next same =>
    subst same
    exact Or.inr ⟨endpoint, atId, Option.some.inj found ▸ evolved⟩
  · exact Or.inr ⟨current, found, current.evolved_self⟩

theorem evolves_step {known : Link → Prop} {freed : List Link}
    (atId : mesh.endpoint? id = some endpoint)
    (step : Endpoint.Step known endpoint [] freed after) :
    mesh.Evolves ((mesh.setEndpoint id after).releaseAll freed) :=
  (evolves_setEndpoint atId step.evolved).releaseAll freed

/-- An endpoint that is gone has no later state, so there is nothing to show for it. -/
theorem evolves_discardUnheld (mesh : Mesh) (id : Nat) : mesh.Evolves (mesh.discardUnheld id) := by
  unfold discardUnheld
  split
  · exact evolves_of_endpoints rfl
  · split
    · exact evolves_of_endpoints rfl
    · refine Evolves.releaseAll (fun other current found => ?_) _
      have slot : (mesh.endpoints.set id none)[other]?.join = some current := found
      rw [join_getElem?_set (Or.inl rfl)] at slot
      split at slot
      · cases slot
      · exact Or.inr ⟨current, slot, current.evolved_self⟩

theorem evolves_unbind {session : SessionId} {unbound : Bool}
    (atId : mesh.endpoint? id = some endpoint)
    (call : mesh.unbind id endpoint session = .ok (unbound, next)) : mesh.Evolves next := by
  rcases unbind_ok call with ⟨_, rfl⟩ | ⟨_, freed, after, removed, rfl⟩
  · exact evolves_of_endpoints rfl
  · have step : Endpoint.Step (fun _ => True) endpoint [] [freed] after := .unbind removed
    exact evolves_step atId step

/-- A name made reachable is a direct path added to the endpoint there, or a new endpoint without a
past. -/
theorem evolves_reach (mesh : Mesh) (id : Nat) (router : Router) (name : String) (link : Link) :
    mesh.Evolves (mesh.reach id router name link).2 := by
  have registers : mesh.Evolves (mesh.register id router name link).2 :=
    (mesh.evolves_addEndpoint name link router.selector).trans (evolves_of_endpoints rfl)
  unfold reach
  split
  · exact registers
  · next old endpoint found =>
    split
    · next added after taken =>
      have step : Endpoint.Step (fun _ => True) endpoint [] [] after := .addLink trivial taken
      exact evolves_step (lookup_eq_some.mp found).2 step
    · exact registers.trans (evolves_discardUnheld _ old)

theorem evolves_removeLink (atId : mesh.endpoint? id = some endpoint) (link : Link) :
    mesh.Evolves (mesh.removeLink id endpoint link).2 := by
  have step : Endpoint.Step (fun _ => True) endpoint [] _ _ := .removeLink link
  exact evolves_step atId step

theorem evolves_retire (mesh : Mesh) (router : Nat) (name : String) (id : Nat) :
    mesh.Evolves (mesh.retire router name id).2 := by
  unfold retire
  split
  · exact evolves_of_endpoints rfl
  · next current _ =>
    split
    · have unregistered : mesh.Evolves
          (mesh.setRouter router { current with endpoints := current.endpoints.erase name }) :=
        evolves_of_endpoints rfl
      exact unregistered.trans (evolves_discardUnheld _ id)
    · exact evolves_of_endpoints rfl

/-- A visit removes the link from the endpoint. Whether the endpoint is then retired makes no
difference to what became of it. -/
theorem evolves_loseAt (router : Nat) (link : Link) (state : LossReport × Mesh) (id : Nat) :
    state.2.Evolves (loseAt router link state id).2 := by
  obtain ⟨report, mesh⟩ := state
  by_cases hit : ∃ endpoint, mesh.endpoint? id = some endpoint ∧ link ∈ endpoint.routes.directLinks
  · obtain ⟨endpoint, atId, direct⟩ := hit
    have removed := evolves_removeLink atId link
    rw [loseAt_hit atId direct]
    dsimp only
    split
    · exact removed.trans (evolves_retire _ router endpoint.name id)
    · exact removed
  · rw [loseAt_spared fun endpoint atId direct => hit ⟨endpoint, atId, direct⟩]
    exact evolves_of_endpoints rfl

/-- Walking over endpoints, step by step. -/
theorem evolves_foldl {State : Type} (view : State → Mesh) {visit : State → Nat → State}
    (step : ∀ state id, (view state).Evolves (view (visit state id))) (ids : List Nat)
    (start : State) : (view start).Evolves (view (ids.foldl visit start)) := by
  induction ids generalizing start with
  | nil => exact evolves_of_endpoints rfl
  | cons first rest ih => exact (step start first).trans (ih _)

theorem evolves_letGoRouter (mesh : Mesh) (id : Nat) : mesh.Evolves (mesh.letGoRouter id) := by
  unfold letGoRouter
  dsimp only
  split
  · exact evolves_of_endpoints rfl
  · split
    · exact evolves_of_endpoints rfl
    · next router _ =>
      have dropped : mesh.Evolves
          { mesh with
            routerHandles := mesh.routerHandles.erase id
            routers := mesh.routers.set id none } := evolves_of_endpoints rfl
      exact dropped.trans (evolves_foldl (fun mesh => mesh) evolves_discardUnheld _ _)

/-- A move binds a session on a single endpoint, or none anywhere. Without handles the endpoint is a
registered one. -/
theorem Move.evolves_or_binds {handles : Prop} (move : Move handles mesh next) :
    mesh.Evolves next ∨ ∃ id before after, mesh.Binds next id before after ∧
      (handles ∨ ∃ router name, mesh.Registers router name id) := by
  cases move with
  | openLink | newTable | seedTable | insertDirect | holdEndpoint | newRouter | holdRouter |
      newRegistry | setRegistry => exact Or.inl (evolves_of_endpoints rfl)
  | dropTable id => exact Or.inl (mesh.evolves_dropTable id)
  | bindTable atId call =>
    rcases bindTable_ok call with ⟨_, rfl⟩ | ⟨_, after, _, rfl⟩ <;>
      exact Or.inl (evolves_of_endpoints rfl)
  | unbindTable atId call =>
    rcases unbindTable_ok call with ⟨_, rfl⟩ | ⟨_, freed, after, _, rfl⟩
    · exact Or.inl (evolves_of_endpoints rfl)
    · exact Or.inl ((evolves_of_endpoints rfl).releaseAll [freed])
  | removeFromTable atId link => exact Or.inl ((evolves_of_endpoints rfl).releaseAll _)
  | newEndpoint opened name selector => exact Or.inl (mesh.evolves_addEndpoint name _ selector)
  | letGoEndpoint id =>
    have let_go : mesh.Evolves { mesh with endpointHandles := mesh.endpointHandles.erase id } :=
      evolves_of_endpoints rfl
    exact Or.inl (let_go.trans (evolves_discardUnheld _ id))
  | letGoRouter id => exact Or.inl (mesh.evolves_letGoRouter id)
  | reach atId opened name => exact Or.inl (mesh.evolves_reach _ _ name _)
  | @bindSession _ id target router endpoint name session choice chosen atId found call =>
    obtain ⟨_, after, bound, rfl⟩ := bindChosen_ok call
    obtain ⟨listed, there⟩ := lookup_eq_some.mp found
    exact Or.inr ⟨_, _, after, ⟨_, _, there, bound, rfl⟩, Or.inr ⟨id, name, router, atId, listed⟩⟩
  | unbindSession atId found call => exact Or.inl (evolves_unbind (lookup_eq_some.mp found).2 call)
  | @loseLink id router order atId visits link =>
    exact Or.inl (evolves_foldl Prod.snd (evolves_loseAt id link) order (.empty, mesh))
  | addLink allowed atId opened call =>
    obtain ⟨after, taken, rfl⟩ := addLink_ok call
    have step : Endpoint.Step (fun _ => True) _ [] [] after := .addLink trivial taken
    exact Or.inl (evolves_step atId step)
  | removeLink allowed atId link => exact Or.inl (evolves_removeLink atId link)
  | bind allowed atId call =>
    obtain ⟨after, bound, rfl⟩ := bind_ok call
    exact Or.inr ⟨_, _, after, ⟨_, _, atId, bound, rfl⟩, Or.inl allowed⟩
  | bindChosen allowed atId call =>
    obtain ⟨_, after, bound, rfl⟩ := bindChosen_ok call
    exact Or.inr ⟨_, _, after, ⟨_, _, atId, bound, rfl⟩, Or.inl allowed⟩
  | unbind allowed atId call => exact Or.inl (evolves_unbind atId call)

/-- Every endpoint in the world is what some operations made of a fresh one. -/
theorem Reach.history {handles : Prop} (reach : Reach handles mesh) {id : Nat} {endpoint : Endpoint}
    (atId : mesh.endpoint? id = some endpoint) : ∃ name link selector calls,
      (runCalls Endpoint.call (.reachedBy name link selector) calls).2 = endpoint := by
  induction reach generalizing id endpoint with
  | start => simp [endpoint?, empty] at atId
  | next _ move ih =>
    -- What was there before has a history already; it only gets longer.
    have longer {before : Endpoint} (history : ∃ name link selector calls,
        (runCalls Endpoint.call (.reachedBy name link selector) calls).2 = before)
        (later : ∃ calls, (runCalls Endpoint.call before calls).2 = endpoint) :
        ∃ name link selector calls,
          (runCalls Endpoint.call (.reachedBy name link selector) calls).2 = endpoint := by
      obtain ⟨name, link, selector, calls, rfl⟩ := history
      obtain ⟨more, result⟩ := later
      exact ⟨name, link, selector, calls ++ more, by rw [runCalls_append]; exact result⟩
    rcases move.evolves_or_binds with evolves |
      ⟨target, before, after, ⟨session, link, there, bound, rfl⟩, _⟩
    · rcases evolves id endpoint atId with ⟨name, link, selector, calls, _, result⟩ |
        ⟨before, there, calls, _, result⟩
      · exact ⟨name, link, selector, calls, result⟩
      · exact longer (ih there) ⟨calls, result⟩
    · have slot := (endpoint?_setEndpoint there after id).symm.trans atId
      split at slot
      · have step : Endpoint.Step (fun _ => True) before [link] [] endpoint :=
          .bind (Option.some.inj slot ▸ bound)
        obtain ⟨operation, result, _⟩ := step.call
        exact longer (ih there) ⟨[operation], result⟩
      · exact ih slot

end Mesh

end DaemonMesh
