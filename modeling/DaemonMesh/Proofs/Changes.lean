import DaemonMesh.Proofs.Moves
import DaemonMesh.Proofs.ReferenceAccounts
import Mathlib.Logic.Relation

namespace DaemonMesh

/-- What a call in `Except` did is read off its parts: the first succeeded with some value, and the
rest succeeded from there. -/
theorem bind_eq_ok {ε α β : Type} {first : Except ε α} {rest : α → Except ε β} {result : β}
    (run : first >>= rest = .ok result) : ∃ value, first = .ok value ∧ rest value = .ok result := by
  cases first with
  | error failure => cases run
  | ok value => exact ⟨value, rfl, run⟩

namespace Mesh

variable {mesh next : Mesh} {id : Nat} {table : RouteTable} {endpoint : Endpoint}
  {session : SessionId} {link : Link}

/-- A binding that is refused for want of a direct path changes nothing. One that succeeds writes
the table and counts the link once. -/
theorem bindTable_ok {bound : Bool}
    (call : mesh.bindTable id table session link = .ok (bound, next)) :
    (bound = false ∧ next = mesh) ∨
      session ≠ .direct ∧ ∃ after, table.bind? session link = some after ∧
        next = (mesh.setTable id after).acquire link := by
  unfold bindTable at call
  split at call
  · cases call
  · next nonzero =>
    split at call
    · obtain ⟨rfl, rfl⟩ := Prod.mk.inj (Except.ok.inj call)
      exact Or.inl ⟨rfl, rfl⟩
    · next after taken =>
      obtain ⟨rfl, rfl⟩ := Prod.mk.inj (Except.ok.inj call)
      exact Or.inr ⟨fun same => nonzero (SessionId.isDirect_iff.mpr same), after, taken, rfl⟩

/-- The link that a removed binding counted is given back. Where there was no binding, nothing
happens. -/
theorem unbindTable_ok {removed : Option Link}
    (call : mesh.unbindTable id table session = .ok (removed, next)) :
    (removed = none ∧ next = mesh) ∨
      session ≠ .direct ∧ ∃ freed after, table.unbind? session = some (freed, after) ∧
        next = (mesh.setTable id after).release freed := by
  unfold unbindTable at call
  split at call
  · cases call
  · next nonzero =>
    split at call
    · obtain ⟨rfl, rfl⟩ := Prod.mk.inj (Except.ok.inj call)
      exact Or.inl ⟨rfl, rfl⟩
    · next freed after taken =>
      obtain ⟨rfl, rfl⟩ := Prod.mk.inj (Except.ok.inj call)
      exact Or.inr ⟨fun same => nonzero (SessionId.isDirect_iff.mpr same), freed, after, taken, rfl⟩

theorem addLink_ok {added : Bool} (call : mesh.addLink id endpoint link = .ok (added, next)) :
    ∃ after, endpoint.tryAddLink link = some (added, after) ∧ next = mesh.setEndpoint id after := by
  obtain ⟨⟨taken, after⟩, first, rest⟩ := bind_eq_ok call
  obtain ⟨rfl, rfl⟩ := Prod.mk.inj (Except.ok.inj rest)
  unfold Endpoint.addLink at first
  split at first
  · cases first
  · next result found =>
    rw [Except.ok.inj first] at found
    exact ⟨after, found, rfl⟩

theorem bind_ok (call : mesh.bind id endpoint session link = .ok next) :
    ∃ after, endpoint.bind session link = .ok after ∧
      next = (mesh.setEndpoint id after).acquire link := by
  obtain ⟨after, first, rest⟩ := bind_eq_ok call
  exact ⟨after, first, (Except.ok.inj rest).symm⟩

/-- A call that lets a selector choose binds the link chosen, so it is one more binding of that
link. -/
theorem bindChosen_ok {choice : Option Link} {chosen : Link}
    (call : mesh.bindChosen id endpoint session choice = .ok (chosen, next)) :
    choice = some chosen ∧ ∃ after, endpoint.bind session chosen = .ok after ∧
      next = (mesh.setEndpoint id after).acquire chosen := by
  obtain ⟨⟨taken, after⟩, first, rest⟩ := bind_eq_ok call
  obtain ⟨rfl, rfl⟩ := Prod.mk.inj (Except.ok.inj rest)
  obtain ⟨chose, bound⟩ := Endpoint.bindChosen_ok first
  exact ⟨chose, after, bound, rfl⟩

/-- The same as for a plain table, through the checks of an endpoint. -/
theorem unbind_ok {unbound : Bool} (call : mesh.unbind id endpoint session = .ok (unbound, next)) :
    (unbound = false ∧ next = mesh) ∨
      unbound = true ∧ ∃ freed after, endpoint.unbind session = .ok (some (freed, after)) ∧
        next = (mesh.setEndpoint id after).release freed := by
  obtain ⟨result, first, rest⟩ := bind_eq_ok call
  cases result with
  | none =>
    obtain ⟨rfl, rfl⟩ := Prod.mk.inj (Except.ok.inj rest)
    exact Or.inl ⟨rfl, rfl⟩
  | some removed =>
    obtain ⟨freed, after⟩ := removed
    obtain ⟨rfl, rfl⟩ := Prod.mk.inj (Except.ok.inj rest)
    exact Or.inr ⟨rfl, freed, after, first, rfl⟩

/-- Taking a binding away releases the oldest one, if there is one. -/
theorem unbind_eq (mesh : Mesh) (id : Nat) (endpoint : Endpoint) (nonzero : session ≠ .direct) :
    mesh.unbind id endpoint session = .ok (match endpoint.routes.unbind? session with
      | none => (false, mesh)
      | some (link, routes) =>
        (true, (mesh.setEndpoint id { endpoint with routes }).release link)) := by
  unfold unbind Endpoint.unbind
  rw [SessionId.not_isDirect_iff.mpr nonzero]
  cases endpoint.routes.unbind? session <;> rfl

@[simp] theorem lookup_eq_some {router : Router} {name : String} :
    mesh.lookup router name = some (id, endpoint) ↔
      router.endpoints.find? name = some id ∧ mesh.endpoint? id = some endpoint := by
  unfold lookup
  cases found : router.endpoints.find? name with
  | none => simp
  | some target =>
    cases alive : mesh.endpoint? target with
    | none => simp [alive]; grind
    | some other => simp [alive]; grind

/-- A change of a single object, together with the references that go with it. All moves are made
of such changes. Only if `free` holds do endpoints stop or lose their last direct path, and names
come to routers or go. -/
inductive Change (free : Prop) (mesh : Mesh) : Mesh → Prop
  | openLink (name : String) (guid : Guid) : Change free mesh (mesh.openLink name guid).2
  | addTable {table : RouteTable}
      (fresh : table = .empty ∨ ∃ link ∈ mesh.links, table = .withDirect link) :
      Change free mesh (mesh.addTable table).2
  | addEndpoint {link : Link} (opened : link ∈ mesh.links) (name : String) (selector : Selector) :
      Change free mesh (mesh.addEndpoint (.reachedBy name link selector)).2
  | stepTable {id : Nat} {table after : RouteTable} {taken freed : List Link}
      (atId : mesh.table? id = some table)
      (step : RouteTable.Step (· ∈ mesh.links) table taken freed after) :
      Change free mesh (((mesh.acquireAll taken).setTable id after).releaseAll freed)
  | stepEndpoint {id : Nat} {endpoint after : Endpoint} {taken freed : List Link}
      (atId : mesh.endpoint? id = some endpoint)
      (step : Endpoint.Step (· ∈ mesh.links) endpoint taken freed after)
      (kept : free ∨ endpoint.Keeps after) :
      Change free mesh (((mesh.acquireAll taken).setEndpoint id after).releaseAll freed)
  | dropTable {id : Nat} {table : RouteTable} (atId : mesh.table? id = some table) :
      Change free mesh
        ({ mesh with tables := mesh.tables.set id none }.releaseAll table.sessionLinks)
  | dropEndpoint {id : Nat} {endpoint : Endpoint} (unheld : mesh.isHeld id = false)
      (atId : mesh.endpoint? id = some endpoint) :
      Change free mesh
        ({ mesh with endpoints := mesh.endpoints.set id none }.releaseAll
          endpoint.routes.sessionLinks)
  | addRouter (selector : Selector) (registry : Nat) (config : RouterConfig) :
      Change free mesh (mesh.addRouter ⟨.empty, selector, registry, config⟩).2
  | register {id : Nat} {router : Router} {link : Link} (allowed : free)
      (atId : mesh.router? id = some router) (opened : link ∈ mesh.links) (name : String) :
      Change free mesh (mesh.register id router name link).2
  | unregister {id : Nat} {router : Router} (allowed : free)
      (atId : mesh.router? id = some router) (name : String) :
      Change free mesh (mesh.setRouter id { router with endpoints := router.endpoints.erase name })
  | dropRouter (id : Nat) : Change free mesh { mesh with routers := mesh.routers.set id none }
  | rearrange (endpointHandles routerHandles : List Nat) (registries : List Registry) :
      Change free mesh { mesh with endpointHandles, routerHandles, registries }

/-- What may happen without anyone's leave may happen with it. -/
theorem Change.mono {free : Prop} (change : Change free mesh next) : Change True mesh next := by
  cases change with
  | openLink name guid => exact .openLink name guid
  | addTable fresh => exact .addTable fresh
  | addEndpoint opened name selector => exact .addEndpoint opened name selector
  | stepTable atId step => exact .stepTable atId step
  | stepEndpoint atId step kept => exact .stepEndpoint atId step (Or.inl trivial)
  | dropTable atId => exact .dropTable atId
  | dropEndpoint unheld atId => exact .dropEndpoint unheld atId
  | addRouter selector registry config => exact .addRouter selector registry config
  | register _ atId opened name => exact .register trivial atId opened name
  | unregister _ atId name => exact .unregister trivial atId name
  | dropRouter id => exact .dropRouter id
  | rearrange endpointHandles routerHandles registries =>
    exact .rearrange endpointHandles routerHandles registries

abbrev Changes (free : Prop) : Mesh → Mesh → Prop := Relation.ReflTransGen (Change free)

variable {free : Prop}

/-- Links stay opened for good. -/
theorem Changes.links (changes : Changes free mesh next) :
    ∀ link ∈ mesh.links, link ∈ next.links := by
  induction changes with
  | refl => exact fun link opened => opened
  | tail _ change ih =>
    intro link opened
    have before := ih link opened
    cases change with
    | openLink => exact List.mem_append_left _ before
    | addTable | addEndpoint | addRouter | register | unregister | dropRouter | rearrange =>
        exact before
    | stepTable | stepEndpoint =>
      rw [links_releaseAll]
      simpa only [setTable, setEndpoint, links_acquireAll] using before
    | dropTable | dropEndpoint =>
      rw [links_releaseAll]
      exact before

theorem changes_dropTable (mesh : Mesh) (id : Nat) : Changes free mesh (mesh.dropTable id) := by
  unfold dropTable
  split
  · exact .refl
  · next table atId => exact .single (.dropTable atId)

theorem changes_discardUnheld (mesh : Mesh) (id : Nat) :
    Changes free mesh (mesh.discardUnheld id) := by
  unfold discardUnheld
  split
  · exact .refl
  · next unheld =>
    split
    · exact .refl
    · next endpoint atId => exact .single (.dropEndpoint (Bool.not_eq_true _ ▸ unheld) atId)

theorem changes_bind {after : Endpoint} (atId : mesh.endpoint? id = some endpoint)
    (bound : endpoint.bind session link = .ok after) :
    Changes free mesh ((mesh.setEndpoint id after).acquire link) :=
  have change : Change free mesh _ := Change.stepEndpoint atId (.bind bound)
    (Or.inr (Endpoint.keeps_of_bind bound))
  .single change

theorem changes_unbind {unbound : Bool} (atId : mesh.endpoint? id = some endpoint)
    (call : mesh.unbind id endpoint session = .ok (unbound, next)) : Changes free mesh next := by
  rcases unbind_ok call with ⟨_, rfl⟩ | ⟨_, freed, after, removed, rfl⟩
  · exact .refl
  · have change : Change free mesh _ := Change.stepEndpoint atId (.unbind removed)
      (Or.inr (Endpoint.keeps_of_unbind removed))
    exact .single change

theorem changes_addLink {added : Bool} {after : Endpoint} (atId : mesh.endpoint? id = some endpoint)
    (opened : link ∈ mesh.links) (taken : endpoint.tryAddLink link = some (added, after)) :
    Changes free mesh (mesh.setEndpoint id after) :=
  have change : Change free mesh _ := Change.stepEndpoint atId (.addLink opened taken)
    (Or.inr (Endpoint.keeps_of_tryAddLink taken))
  .single change

theorem changes_removeLink (allowed : free) (atId : mesh.endpoint? id = some endpoint)
    (link : Link) :
    Changes free mesh (mesh.removeLink id endpoint link).2 :=
  have change : Change free mesh _ := Change.stepEndpoint atId (.removeLink link) (Or.inl allowed)
  .single change

theorem changes_reach {router : Router} (allowed : free) (atId : mesh.router? id = some router)
    (opened : link ∈ mesh.links) (name : String) :
    Changes free mesh (mesh.reach id router name link).2 := by
  unfold reach
  split
  · exact .single (.register allowed atId opened name)
  · next old endpoint found =>
    split
    · next added after taken => exact changes_addLink (lookup_eq_some.mp found).2 opened taken
    · have registered := Change.register allowed atId opened name
      exact (Relation.ReflTransGen.single registered).trans (changes_discardUnheld _ old)

theorem changes_retire (allowed : free) (mesh : Mesh) (router : Nat) (name : String) (id : Nat) :
    Changes free mesh (mesh.retire router name id).2 := by
  unfold retire
  split
  · exact .refl
  · next current atRouter =>
    split
    · have unregistered := Change.unregister allowed atRouter name
      exact (Relation.ReflTransGen.single unregistered).trans (changes_discardUnheld _ id)
    · exact .refl

/-- A loss passes over every endpoint that has not got the link among its direct paths. This is the
guard of a visit. -/
theorem loseAt_spared {router : Nat} {report : LossReport}
    (spared : ∀ endpoint, mesh.endpoint? id = some endpoint → link ∉ endpoint.routes.directLinks) :
    loseAt router link (report, mesh) id = (report, mesh) := by
  unfold loseAt
  dsimp only
  split
  · rfl
  · next endpoint atId =>
    rw [RouteTable.not_hasDirect_iff.mpr (spared endpoint atId)]
    rfl

/-- An endpoint that has the lost link among its direct paths loses it, and goes off the router if
that leaves it empty. -/
theorem loseAt_hit {router : Nat} {report : LossReport} (atId : mesh.endpoint? id = some endpoint)
    (direct : link ∈ endpoint.routes.directLinks) :
    loseAt router link (report, mesh) id =
      let removal := mesh.removeLink id endpoint link
      let retirement :=
        if removal.1 then removal.2.retire router endpoint.name id else (false, removal.2)
      (⟨if retirement.1 then report.retired ++ [endpoint.name] else report.retired,
        report.lost ++ (endpoint.routes.sessionsOf link).map fun session =>
          (endpoint.name, session)⟩,
        retirement.2) := by
  unfold loseAt
  dsimp only
  rw [atId]
  dsimp only
  rw [RouteTable.hasDirect_iff.mpr direct]
  rfl

/-- A visit removes the link from one endpoint and may retire it, and both are changes of the list.
-/
theorem changes_loseAt (allowed : free) (router : Nat) (link : Link) (state : LossReport × Mesh)
    (id : Nat) : Changes free state.2 (loseAt router link state id).2 := by
  obtain ⟨report, mesh⟩ := state
  by_cases hit : ∃ endpoint, mesh.endpoint? id = some endpoint ∧ link ∈ endpoint.routes.directLinks
  · obtain ⟨endpoint, atId, direct⟩ := hit
    have removed := changes_removeLink allowed atId link
    rw [loseAt_hit atId direct]
    dsimp only
    split
    · exact removed.trans (changes_retire allowed _ router endpoint.name id)
    · exact removed
  · rw [loseAt_spared fun endpoint atId direct => hit ⟨endpoint, atId, direct⟩]

/-- The visits one after the other, by induction on the order, with the report carried along. -/
theorem changes_loseLinkIn (allowed : free) (mesh : Mesh) (order : List Nat) (router : Nat)
    (link : Link) : Changes free mesh (mesh.loseLinkIn order router link).2 := by
  have fold (state : LossReport × Mesh) :
      Changes free state.2 (order.foldl (loseAt router link) state).2 := by
    induction order generalizing state with
    | nil => exact .refl
    | cons id rest ih => exact (changes_loseAt allowed router link state id).trans (ih _)
  exact fold (.empty, mesh)

/-- A router whose last handle goes lets go of its endpoints, and those that nobody else holds go
one after the other. -/
theorem changes_letGoRouter (mesh : Mesh) (id : Nat) : Changes free mesh (mesh.letGoRouter id) := by
  have let_go : Change free mesh { mesh with routerHandles := mesh.routerHandles.erase id } :=
    .rearrange _ _ _
  unfold letGoRouter
  dsimp only
  split
  · exact .single let_go
  · split
    · exact .single let_go
    · next router _ =>
      have dropped : Change free { mesh with routerHandles := mesh.routerHandles.erase id }
          { mesh with
            routerHandles := mesh.routerHandles.erase id
            routers := mesh.routers.set id none } := .dropRouter id
      have fold (ids : List Nat) (start : Mesh) :
          Changes free start (ids.foldl discardUnheld start) := by
        induction ids generalizing start with
        | nil => exact .refl
        | cons first rest ih => exact (changes_discardUnheld start first).trans (ih _)
      exact ((Relation.ReflTransGen.single let_go).tail dropped).trans (fold _ _)

/-- A move is made of tame changes unless it makes a name reachable or reports a link as lost. -/
theorem Move.cases_changes {handles : Prop} (move : Move handles mesh next) :
    Changes handles mesh next ∨
      (∃ id router name link, mesh.router? id = some router ∧ link ∈ mesh.links ∧
        next = (mesh.reach id router name link).2) ∨
      ∃ id router order link, mesh.router? id = some router ∧
        order.Perm router.endpoints.values ∧ next = (mesh.loseLinkIn order id link).2 := by
  cases move with
  | reach atId opened name => exact Or.inr (Or.inl ⟨_, _, name, _, atId, opened, rfl⟩)
  | loseLink atId visits link => exact Or.inr (Or.inr ⟨_, _, _, link, atId, visits, rfl⟩)
  | openLink name guid => exact Or.inl (.single (.openLink name guid))
  | newTable => exact Or.inl (.single (.addTable (Or.inl rfl)))
  | seedTable opened => exact Or.inl (.single (.addTable (Or.inr ⟨_, opened, rfl⟩)))
  | dropTable id => exact Or.inl (changes_dropTable mesh id)
  | insertDirect atId opened =>
    have change : Change handles mesh _ := Change.stepTable atId (.insertDirect opened)
    exact Or.inl (.single change)
  | bindTable atId call =>
    rcases bindTable_ok call with ⟨_, rfl⟩ | ⟨nonzero, after, bound, rfl⟩
    · exact Or.inl .refl
    · have change : Change handles mesh _ := Change.stepTable atId (.bind nonzero bound)
      exact Or.inl (.single change)
  | unbindTable atId call =>
    rcases unbindTable_ok call with ⟨_, rfl⟩ | ⟨nonzero, freed, after, unbound, rfl⟩
    · exact Or.inl .refl
    · have change : Change handles mesh _ := Change.stepTable atId (.unbind nonzero unbound)
      exact Or.inl (.single change)
  | removeFromTable atId link =>
    have change : Change handles mesh _ := Change.stepTable atId (.removeLink link)
    exact Or.inl (.single change)
  | newEndpoint opened name selector => exact Or.inl (.single (.addEndpoint opened name selector))
  | holdEndpoint id => exact Or.inl (.single (.rearrange _ _ _))
  | letGoEndpoint id =>
    have let_go : Change handles mesh
        { mesh with endpointHandles := mesh.endpointHandles.erase id } := .rearrange _ _ _
    exact Or.inl ((Relation.ReflTransGen.single let_go).trans (changes_discardUnheld _ id))
  | newRouter selector registry config =>
    exact Or.inl (.single (.addRouter selector registry config))
  | holdRouter id => exact Or.inl (.single (.rearrange _ _ _))
  | letGoRouter id => exact Or.inl (changes_letGoRouter mesh id)
  | newRegistry => exact Or.inl (.single (.rearrange _ _ _))
  | setRegistry id registry => exact Or.inl (.single (.rearrange _ _ _))
  | bindSession atId found call =>
    obtain ⟨_, after, bound, rfl⟩ := bindChosen_ok call
    exact Or.inl (changes_bind (lookup_eq_some.mp found).2 bound)
  | unbindSession atId found call =>
    exact Or.inl (changes_unbind (lookup_eq_some.mp found).2 call)
  | addLink allowed atId opened call =>
    obtain ⟨after, taken, rfl⟩ := addLink_ok call
    exact Or.inl (changes_addLink atId opened taken)
  | removeLink allowed atId link => exact Or.inl (changes_removeLink allowed atId link)
  | bind allowed atId call =>
    obtain ⟨after, bound, rfl⟩ := bind_ok call
    exact Or.inl (changes_bind atId bound)
  | bindChosen allowed atId call =>
    obtain ⟨_, after, bound, rfl⟩ := bindChosen_ok call
    exact Or.inl (changes_bind atId bound)
  | unbind allowed atId call => exact Or.inl (changes_unbind atId call)

/-- Every move comes from a call of the library, and each of them was shown above to be a chain of
changes. -/
theorem Move.changes {handles : Prop} (move : Move handles mesh next) : Changes True mesh next := by
  rcases move.cases_changes with tame | ⟨_, _, name, _, atId, opened, rfl⟩ |
    ⟨id, _, order, link, _, _, rfl⟩
  · exact Relation.ReflTransGen.mono (fun _ _ change => Change.mono change) _ _ tame
  · exact changes_reach trivial atId opened name
  · exact changes_loseLinkIn trivial mesh order id link

end Mesh

end DaemonMesh
