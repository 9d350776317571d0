import DaemonMesh.Proofs.ServedNames
import DaemonMesh.Proofs.SteadySessions
import DaemonMesh.Proofs.StoppingEndpoints

namespace DaemonMesh

namespace Endpoint

variable {endpoint before after : Endpoint} {known : Link → Prop} {freed : List Link}

/-- All bindings of a session ride on one link, as long as the default selector chooses it. -/
def Steady (endpoint : Endpoint) : Prop :=
  endpoint.selector = .firstAvailable → endpoint.routes.Steady

theorem steady_reachedBy (name : String) (link : Link) (selector : Selector) :
    (reachedBy name link selector).Steady :=
  fun _ => RouteTable.steady_withDirect link

theorem Step.steady (step : Step known endpoint [] freed after)
    (ascending : endpoint.routes.buckets.Ascending) (steady : endpoint.Steady) : after.Steady := by
  intro default
  have still := steady (step.selector.symm.trans default)
  cases step with
  | addLink _ taken =>
    rw [(tryAddLink_some taken).2]
    exact still.insertDirect _
  | unbind unbound =>
    obtain ⟨_, routes, found, rfl⟩ := unbind_ok unbound
    exact still.unbind found
  | removeLink link => exact still.removeLink ascending link

/-- Whatever is asked of an endpoint, as long as no session is bound, they stay on their links. -/
theorem Evolved.steady (evolved : before.Evolved after) (consistent : before.Consistent)
    (steady : before.Steady) : after.Steady := by
  obtain ⟨calls, unbinding, rfl⟩ := evolved
  induction calls generalizing before with
  | nil => exact steady
  | cons operation rest ih =>
    have next : (before.call operation).2.Steady := by
      rcases before.call_cases operation with ⟨same, _⟩ | ⟨taken, freed, step, answered, _⟩
      · rw [same]
        exact steady
      · have none : taken = [] := List.eq_nil_iff_forall_not_mem.mpr fun link member =>
          unbinding operation List.mem_cons_self (call_bound_binds ((answered link).mpr member))
        rw [none] at step
        exact step.steady consistent.valid.ascending steady
    exact ih (call_consistent consistent operation) next
      fun later member => unbinding later (List.mem_cons_of_mem _ member)

end Endpoint

namespace Mesh

variable {mesh next : Mesh} {id target : Nat} {name : String} {endpoint : Endpoint}

/-- A change of the routing state in which endpoints are left to the routers, and the choice of
links to the endpoints' selectors. -/
inductive Routes (mesh : Mesh) : Mesh → Prop
  | bind {next : Mesh} {id target : Nat} {router : Router} {endpoint : Endpoint} {name : String}
      {session : SessionId} {chosen : Link} (opts : Option SessionOpts)
      (linkNamed : String → Option Link) (atId : mesh.router? id = some router)
      (found : mesh.lookup router name = some (target, endpoint))
      (call : mesh.bindChosen target endpoint session
        (endpoint.selector.choose ⟨endpoint.routes, session, opts, linkNamed⟩) =
          .ok (chosen, next)) : Routes mesh next
  | other {next : Mesh} (move : Move False mesh next) (unbound : mesh.Evolves next) :
      Routes mesh next

theorem Routes.move (routes : Routes mesh next) : Move False mesh next := by
  cases routes with
  | bind _ _ atId found call => exact .bindSession atId found call
  | other move _ => exact move

/-- The routing states of runs in which endpoints are changed by routers alone. -/
inductive Routed : Mesh → Prop
  | start : Routed empty
  | next {mesh after : Mesh} : Routed mesh → Routes mesh after → Routed after

theorem Routed.reach (routed : Routed mesh) : Reach False mesh := by
  induction routed with
  | start => exact .start
  | next _ routes ih => exact .next ih routes.move

/-- Sessions stay on the links that they were bound to first. -/
theorem Routed.steady (routed : Routed mesh) {id : Nat} {endpoint : Endpoint}
    (atId : mesh.endpoint? id = some endpoint) : endpoint.Steady := by
  induction routed generalizing id endpoint with
  | start => simp [endpoint?, empty] at atId
  | next before routes ih =>
    cases routes with
    | bind opts linkNamed atRouter found call =>
      obtain ⟨chose, after, taken, rfl⟩ := bindChosen_ok call
      have there := (lookup_eq_some.mp found).2
      have slot := (endpoint?_setEndpoint there after id).symm.trans atId
      split at slot
      · obtain rfl := Option.some.inj slot
        obtain ⟨_, _, rfl⟩ := Endpoint.bind_ok taken
        intro default
        rw [show Endpoint.selector _ = Selector.firstAvailable from default] at chose
        exact (ih there default).append chose
      · exact ih slot
    | other move unbound =>
      rcases unbound id endpoint atId with
        ⟨name, link, selector, evolved⟩ | ⟨earlier, was, evolved⟩
      · exact evolved.steady (Endpoint.consistent_reachedBy name link selector)
          (Endpoint.steady_reachedBy name link selector)
      · exact evolved.steady (before.reach.consistent was) (ih was)

section Discards

theorem endpoint?_discardUnheld (held : mesh.isHeld target = true) (other : Nat) :
    (mesh.discardUnheld other).endpoint? target = mesh.endpoint? target := by
  by_cases same : target = other
  · rw [← same, discardUnheld, if_pos held]
  · cases there : mesh.endpoint? other with
    | none =>
      rw [discardUnheld, there]
      exact congrArg (·.endpoint? target) (ite_self mesh)
    | some endpoint =>
      obtain ⟨slot, counts, overdrawn, _, frame⟩ := discardUnheld_frame there
      rw [frame]
      exact (join_getElem?_set (Or.inr (endpoint?_lt there))).trans (if_neg same)

/-- What is held stays when others are let go. -/
theorem endpoint?_foldl_discardUnheld (held : mesh.isHeld target = true) (ids : List Nat) :
    (ids.foldl discardUnheld mesh).endpoint? target = mesh.endpoint? target := by
  induction ids generalizing mesh with
  | nil => rfl
  | cons first rest ih =>
    have still : (mesh.discardUnheld first).isHeld target = true := by
      obtain ⟨_, _, _, shape⟩ := mesh.discardUnheld_shape first
      rw [shape]
      exact held
    exact (ih still).trans (endpoint?_discardUnheld held first)

/-- A router that is let go leaves the endpoints of all others alone. -/
theorem endpoint?_letGoRouter (registers : mesh.Registers id name target) (other : Nat)
    (stays : (mesh.letGoRouter other).router? id ≠ none) :
    (mesh.letGoRouter other).endpoint? target = mesh.endpoint? target := by
  unfold letGoRouter at stays ⊢
  dsimp only at stays ⊢
  split at stays
  · next kept => rw [if_pos kept]; rfl
  · next last =>
    rw [if_neg last]
    split at stays
    · rfl
    · next router _ =>
      obtain ⟨_, _, _, shape⟩ := foldl_discardUnheld_shape
        { mesh with
          routerHandles := mesh.routerHandles.erase other
          routers := mesh.routers.set other none } router.endpoints.values
      rw [shape, router?, join_getElem?_set (Or.inl rfl)] at stays
      have apart : id ≠ other := fun same => stays (if_pos same)
      have still : ({ mesh with
          routerHandles := mesh.routerHandles.erase other
          routers := mesh.routers.set other none } : Mesh).Registers id name target := by
        obtain ⟨current, atId, found⟩ := registers
        have atStill := (join_getElem?_set (Or.inl rfl)).trans ((if_neg apart).trans atId)
        exact ⟨current, atStill, found⟩
      exact endpoint?_foldl_discardUnheld still.held _

end Discards

theorem endpoints_releaseAll (mesh : Mesh) (links : List Link) :
    (mesh.releaseAll links).endpoints = mesh.endpoints := by
  obtain ⟨counts, overdrawn, frame, _⟩ := mesh.releaseAll_frame links
  rw [frame]

theorem endpoint?_releaseAll (mesh : Mesh) (links : List Link) (id : Nat) :
    (mesh.releaseAll links).endpoint? id = mesh.endpoint? id := by
  rw [endpoint?, endpoints_releaseAll]
  rfl

/-- What a change of the routing state can be to an endpoint that a router has registered. -/
inductive Touch (mesh next : Mesh) (id target : Nat) (endpoint : Endpoint) : Prop
  | spared (still : next.endpoint? target = some endpoint)
  | widened {link : Link} {added : Bool} {after : Endpoint}
      (taken : endpoint.tryAddLink link = some (added, after))
      (there : next.endpoint? target = some after)
  | bound {session : SessionId} {link : Link} {after : Endpoint}
      (taken : endpoint.bind session link = .ok after) (there : next.endpoint? target = some after)
  | unbound {session : SessionId} {freed : Link} {after : Endpoint}
      (call : mesh.unbind target endpoint session = .ok (true, next))
      (released : endpoint.unbind session = .ok (some (freed, after)))
      (there : next.endpoint? target = some after)
  | lost {router : Router} {order : List Nat} {link : Link}
      (atId : mesh.router? id = some router) (visits : order.Perm router.endpoints.values)
      (loss : next = (mesh.loseLinkIn order id link).2)

theorem touch_setEndpoint {other : Nat} {before after : Endpoint}
    (there : mesh.endpoint? target = some endpoint) (atOther : mesh.endpoint? other = some before)
    (same : next.endpoints = (mesh.setEndpoint other after).endpoints)
    (touch : target = other → next.endpoint? target = some after →
      mesh.Touch next id target endpoint) : mesh.Touch next id target endpoint := by
  have slot : next.endpoint? target = (mesh.setEndpoint other after).endpoint? target := by
    rw [endpoint?, endpoint?, same]
  rw [endpoint?_setEndpoint atOther] at slot
  split at slot
  · next equal => exact touch equal slot
  · exact .spared (slot.trans there)

theorem touch_reach (served : mesh.Served) {other : Nat} {router : Router} {link : Link}
    (atOther : mesh.router? other = some router) (there : mesh.endpoint? target = some endpoint)
    (reached : String) :
    mesh.Touch (mesh.reach other router reached link).2 id target endpoint := by
  cases found : router.endpoints.find? reached with
  | some old =>
    obtain ⟨before, added, after, atOld, taken, same⟩ :=
      served.reach_registered atOther found link
    rw [same]
    refine touch_setEndpoint there atOld rfl fun equal now => ?_
    subst equal
    rw [Option.some.inj (atOld.symm.trans there)] at taken
    exact .widened taken now
  | none =>
    rw [reach_missing found]
    exact .spared (endpoint?_register_old _ _ _ _ there)

/-- Registered endpoints are changed in few ways only. -/
theorem Move.touch (move : Move False mesh next) (reach : Reach False mesh)
    (registers : mesh.Registers id name target) (there : mesh.endpoint? target = some endpoint)
    (stays : next.router? id ≠ none) : mesh.Touch next id target endpoint := by
  have spared (same : next.endpoints = mesh.endpoints) : mesh.Touch next id target endpoint := by
    refine .spared ?_
    rw [endpoint?, same]
    exact there
  cases move with
  | openLink | newTable | seedTable | insertDirect | holdEndpoint | newRouter | holdRouter |
      newRegistry | setRegistry => exact spared rfl
  | dropTable other =>
    refine spared ?_
    unfold Mesh.dropTable
    split
    · rfl
    · exact endpoints_releaseAll _ _
  | bindTable atId call =>
    rcases bindTable_ok call with ⟨_, rfl⟩ | ⟨_, after, _, rfl⟩ <;> exact spared rfl
  | unbindTable atId call =>
    rcases unbindTable_ok call with ⟨_, rfl⟩ | ⟨_, freed, after, _, rfl⟩
    · exact spared rfl
    · exact spared (endpoints_releaseAll _ [freed])
  | removeFromTable atId link => exact spared (endpoints_releaseAll _ _)
  | newEndpoint =>
    refine .spared (endpoint?_eq_some.mpr ?_)
    exact (List.getElem?_append_left (endpoint?_lt there)).trans (endpoint?_eq_some.mp there)
  | letGoEndpoint other =>
    have still : ({ mesh with endpointHandles := mesh.endpointHandles.erase other } :
        Mesh).Registers id name target := registers
    exact .spared ((endpoint?_discardUnheld still.held other).trans there)
  | letGoRouter other => exact .spared ((endpoint?_letGoRouter registers other stays).trans there)
  | reach atId opened reached => exact touch_reach reach.served atId there reached
  | bindSession atId found call =>
    obtain ⟨_, after, bound, rfl⟩ := bindChosen_ok call
    have atOther := (lookup_eq_some.mp found).2
    refine touch_setEndpoint there atOther rfl fun equal now => ?_
    subst equal
    rw [Option.some.inj (atOther.symm.trans there)] at bound
    exact .bound bound now
  | unbindSession atId found call =>
    have atOther := (lookup_eq_some.mp found).2
    rcases unbind_ok call with ⟨_, rfl⟩ | ⟨rfl, freed, after, released, rfl⟩
    · exact spared rfl
    · refine touch_setEndpoint there atOther (endpoints_releaseAll _ [freed]) fun equal now => ?_
      subst equal
      obtain rfl := Option.some.inj (atOther.symm.trans there)
      exact .unbound call released now
  | @loseLink other router order atId visits link =>
    -- Another router visits endpoints of its own, and none of them is registered here.
    by_cases same : id = other
    · subst same
      exact .lost atId visits rfl
    · obtain ⟨_, frame⟩ := reach.accounted.loseLinkIn reach.registered atId visits link
      refine .spared ((frame.outside target fun visited => same ?_).trans there)
      obtain ⟨found, _, listed⟩ := (reach.registered.visits atId visits).listed target visited
      exact reach.registered.single other found.name target id name ⟨router, atId, listed⟩
        registers
  | addLink allowed | removeLink allowed | bind allowed | bindChosen allowed | unbind allowed =>
    -- Calls through handles, which do not occur here.
    exact allowed.elim

end Mesh

end DaemonMesh
