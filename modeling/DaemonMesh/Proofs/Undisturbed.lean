import DaemonMesh.Proofs.RoutedRuns

namespace DaemonMesh

namespace Mesh

/-- What leaves a router and the endpoints that it has registered as they are, and takes no handle
on it away. -/
structure Undisturbed (id : Nat) (mesh next : Mesh) : Prop where
  router : next.router? id = mesh.router? id
  endpoints : ∀ name target, mesh.Registers id name target →
    next.endpoint? target = mesh.endpoint? target
  handles : mesh.routerHandles.count id ≤ next.routerHandles.count id

variable {mesh next later : Mesh} {id other target : Nat} {router : Router} {name : String}
  {endpoint : Endpoint} {link : Link}

/-- Links, counts, tables and registries are of no account here. -/
theorem undisturbed_of_parts (routers : next.routers = mesh.routers)
    (endpoints : next.endpoints = mesh.endpoints)
    (handles : next.routerHandles = mesh.routerHandles) : Undisturbed id mesh next where
  router := by rw [router?, router?, routers]
  endpoints _ target _ := by rw [endpoint?, endpoint?, endpoints]
  handles := by rw [handles]

theorem undisturbed_self (id : Nat) (mesh : Mesh) : Undisturbed id mesh mesh :=
  undisturbed_of_parts rfl rfl rfl

namespace Undisturbed

/-- What the router had registered it has registered still. -/
theorem registers (undisturbed : Undisturbed id mesh next)
    (registers : mesh.Registers id name target) : next.Registers id name target := by
  obtain ⟨router, atId, found⟩ := registers
  exact ⟨router, undisturbed.router.trans atId, found⟩

theorem trans (first : Undisturbed id mesh next) (second : Undisturbed id next later) :
    Undisturbed id mesh later where
  router := second.router.trans first.router
  endpoints name target registers :=
    (second.endpoints name target (first.registers registers)).trans
      (first.endpoints name target registers)
  handles := first.handles.trans second.handles

/-- A name leads to the same endpoint in the same state. -/
theorem lookup (undisturbed : Undisturbed id mesh next) (atId : mesh.router? id = some router)
    (name : String) : next.lookup router name = mesh.lookup router name := by
  unfold Mesh.lookup
  cases found : router.endpoints.find? name with
  | none => rfl
  | some target =>
    show (next.endpoint? target >>= fun endpoint => some (target, endpoint)) = _
    rw [undisturbed.endpoints name target ⟨router, atId, found⟩]
    rfl

theorem held (undisturbed : Undisturbed id mesh next) (held : id ∈ mesh.routerHandles) :
    id ∈ next.routerHandles :=
  List.count_pos_iff.mp ((List.count_pos_iff.mpr held).trans_le undisturbed.handles)

/-- To give back references is to write to the counts. -/
theorem releaseAll (undisturbed : Undisturbed id mesh next) (links : List Link) :
    Undisturbed id mesh (next.releaseAll links) := by
  obtain ⟨counts, overdrawn, frame, _⟩ := next.releaseAll_frame links
  rw [frame]
  exact undisturbed.trans (undisturbed_of_parts rfl rfl rfl)

/-- Endpoints go only if nobody holds them, and the router holds those that it has registered. -/
theorem discardUnheld (undisturbed : Undisturbed id mesh next) (other : Nat) :
    Undisturbed id mesh (next.discardUnheld other) := by
  refine undisturbed.trans ⟨?_, fun name target registers => ?_, ?_⟩
  · obtain ⟨_, _, _, shape⟩ := next.discardUnheld_shape other
    rw [shape]
    rfl
  · exact endpoint?_discardUnheld registers.held other
  · obtain ⟨_, _, _, shape⟩ := next.discardUnheld_shape other
    rw [shape]

/-- An endpoint that goes with its last handle is registered nowhere, hence not with this router. -/
theorem letGoEndpoint (undisturbed : Undisturbed id mesh next) (other : Nat) :
    Undisturbed id mesh (next.letGoEndpoint other) := by
  refine .discardUnheld ?_ other
  exact undisturbed.trans (undisturbed_of_parts rfl rfl rfl)

/-- Another router that goes lets go of endpoints of its own, which this one cannot have, as no
endpoint is registered twice. -/
theorem letGoRouter_other (undisturbed : Undisturbed id mesh next) (different : id ≠ other)
    (present : mesh.router? id = some router) : Undisturbed id mesh (next.letGoRouter other) := by
  have erased : next.routerHandles.count id ≤ (next.routerHandles.erase other).count id :=
    (List.count_erase_of_ne different).ge
  have atId : (next.letGoRouter other).router? id = next.router? id := by
    unfold Mesh.letGoRouter
    dsimp only
    split
    · rfl
    · split
      · rfl
      · obtain ⟨_, _, _, shape⟩ := foldl_discardUnheld_shape _ _
        rw [shape]
        exact (join_getElem?_set (Or.inl rfl)).trans (if_neg different)
  have stays : (next.letGoRouter other).router? id ≠ none := by
    rw [atId, undisturbed.router, present]
    exact Option.some_ne_none router
  refine undisturbed.trans ⟨atId, fun name target registers =>
    endpoint?_letGoRouter registers other stays, ?_⟩
  unfold Mesh.letGoRouter
  dsimp only
  split
  · exact erased
  · split
    · exact erased
    · obtain ⟨_, _, _, shape⟩ := foldl_discardUnheld_shape _ _
      rw [shape]
      exact erased

/-- A call that holds a router while it lasts leaves this one alone if all that happens during the
call does, whichever of the routers it is that the call holds. -/
theorem letGoRouter (undisturbed : Undisturbed id (mesh.holdRouter other) next)
    (present : mesh.router? id = some router) (held : id ∈ mesh.routerHandles) :
    Undisturbed id mesh (next.letGoRouter other) := by
  by_cases same : id = other
  · subst same
    have remaining := held_beyond held rfl undisturbed.handles
    have more := undisturbed.handles
    rw [holdRouter, List.count_cons_self] at more
    rw [letGoRouter_held remaining]
    refine ⟨undisturbed.router, undisturbed.endpoints, ?_⟩
    show _ ≤ (next.routerHandles.erase id).count id
    rw [List.count_erase_self]
    omega
  · have holding : Undisturbed id mesh (mesh.holdRouter other) :=
      ⟨rfl, fun _ _ _ => rfl, List.count_le_count_cons⟩
    exact (holding.trans undisturbed).letGoRouter_other same present

end Undisturbed

theorem undisturbed_dropTable (id : Nat) (mesh : Mesh) (table : Nat) :
    Undisturbed id mesh (mesh.dropTable table) := by
  unfold dropTable
  split
  · exact undisturbed_self id mesh
  · refine .releaseAll ?_ _
    exact undisturbed_of_parts rfl rfl rfl

section Free

variable (free : ∀ name, ¬mesh.Registers id name target)
  (there : mesh.endpoint? target = some endpoint)
include free there

/-- Endpoints that the router has not registered may change. -/
theorem undisturbed_setEndpoint (after : Endpoint) :
    Undisturbed id mesh (mesh.setEndpoint target after) := by
  refine ⟨rfl, fun name place registers => ?_, le_refl _⟩
  refine (endpoint?_setEndpoint there after place).trans (if_neg fun same => ?_)
  subst same
  exact free name registers

theorem undisturbed_bindChosen {session : SessionId} {choice : Option Link}
    (call : mesh.bindChosen target endpoint session choice = .ok (link, next)) :
    Undisturbed id mesh next := by
  obtain ⟨_, after, _, rfl⟩ := bindChosen_ok call
  exact (undisturbed_setEndpoint free there after).trans (undisturbed_of_parts rfl rfl rfl)

theorem undisturbed_unbind {session : SessionId} {unbound : Bool}
    (call : mesh.unbind target endpoint session = .ok (unbound, next)) :
    Undisturbed id mesh next := by
  rcases unbind_ok call with ⟨_, rfl⟩ | ⟨_, freed, after, _, rfl⟩
  · exact undisturbed_self id _
  · exact (undisturbed_setEndpoint free there after).releaseAll [freed]

end Free

section Registered

variable (registered : mesh.Registered)
include registered

/-- A new endpoint gets a number that no router has listed. -/
theorem undisturbed_addEndpoint (id : Nat) (endpoint : Endpoint) :
    Undisturbed id mesh (mesh.addEndpoint endpoint).2 := by
  refine ⟨rfl, fun name target registers => ?_, le_refl _⟩
  obtain ⟨router, atId, found⟩ := registers
  obtain ⟨before, there, _⟩ := registered.known id router name target atId found
  rw [there]
  exact endpoint?_eq_some.mpr ((List.getElem?_append_left (endpoint?_lt there)).trans
    (endpoint?_eq_some.mp there))

variable (atOther : mesh.router? other = some router) (different : id ≠ other)
include atOther different

/-- No endpoint is registered with two routers. -/
theorem Registered.free (found : router.endpoints.find? name = some target) (taken : String) :
    ¬mesh.Registers id taken target := fun registers =>
  different (registered.single other name target id taken ⟨router, atOther, found⟩ registers)

theorem undisturbed_register (name : String) (link : Link) :
    Undisturbed id mesh (mesh.register other router name link).2 := by
  refine ⟨(router?_register atOther name link id).trans (if_neg different), ?_, le_refl _⟩
  rintro taken target ⟨current, atId, found⟩
  obtain ⟨before, there, _⟩ := registered.known id current taken target atId found
  rw [there, endpoint?_register_old other router name link there]

/-- A name made reachable elsewhere is either new there or known there, and it is an endpoint of the
other router both times. -/
theorem undisturbed_reach (name : String) (link : Link) :
    Undisturbed id mesh (mesh.reach other router name link).2 := by
  have fresh := undisturbed_register registered atOther different name link
  unfold reach
  split
  · exact fresh
  · next old endpoint present =>
    obtain ⟨found, there⟩ := lookup_eq_some.mp present
    split
    · exact undisturbed_setEndpoint (registered.free atOther different found) there _
    · exact fresh.discardUnheld old

/-- The visits go to the endpoints of the router that lost the link. -/
theorem undisturbed_loseLinkIn (accounted : mesh.Accounted) {order : List Nat}
    (permuted : order.Perm router.endpoints.values) (link : Link) :
    Undisturbed id mesh (mesh.loseLinkIn order other link).2 := by
  obtain ⟨_, frame⟩ := accounted.loseLinkIn registered atOther permuted link
  refine ⟨frame.elsewhere id different, fun name target registers => ?_, ?_⟩
  · refine frame.outside target fun visited => ?_
    obtain ⟨found, _, listed⟩ := (registered.visits atOther permuted).listed target visited
    exact registered.free atOther different listed name registers
  · rw [frame.routerHandles]

end Registered

end Mesh

end DaemonMesh
